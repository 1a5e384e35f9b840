import FileQuery.Calendar.IsoText
import FileQuery.Proofs.Calendar.Ordinal
import Mathlib.Algebra.Group.Nat.Defs
import Mathlib.Data.List.TakeDrop

/-!
# Written moments are read back

The text of a moment is read as that moment.  The one exception is an offset of less than a second,
which is read as universal time; the offsets of clocks are whole seconds.
-/

namespace FileQuery.Calendar

/-! ## 1. Digits -/

/-- `s` is `n` in exactly `width` digits. -/
structure IsNumeral (width n : Nat) (s : List Char) : Prop where
  length : s.length = width
  digits : ∀ c ∈ s, c.isDigit = true
  value : Nat.ofDigitChars 10 s 0 = n

theorem toList_padded (width n : Nat) : (padded width n).toList =
    List.replicate (width - (Nat.toDigits 10 n).length) '0' ++ Nat.toDigits 10 n := by
  simp [padded]

theorem isNumeral_padded {width n : Nat} (hwidth : 0 < width) (h : n < 10 ^ width) :
    IsNumeral width n (padded width n).toList := by
  have hlength := (Nat.length_toDigits_le_iff (by decide) hwidth).2 h
  rw [toList_padded]
  refine ⟨?_, fun c hc => ?_, ?_⟩
  · rw [List.length_append, List.length_replicate]
    omega
  · rcases List.mem_append.1 hc with hc | hc
    · rw [List.eq_of_mem_replicate hc]
      decide
    · exact Nat.isDigit_of_mem_toDigits (by decide) (by decide) hc
  · rw [Nat.ofDigitChars_append, Nat.ofDigitChars_replicate_zero, Nat.mul_zero,
      Nat.ofDigitChars_ten_toDigits]

theorem IsNumeral.takeDigits {width n : Nat} {s : List Char} (h : IsNumeral width n s)
    (rest : List Char) : takeDigits width (s ++ rest) = some (n, rest) := by
  obtain ⟨rfl, hdigits, hvalue⟩ := h
  have hall : s.all Char.isDigit = true := List.all_eq_true.2 hdigits
  rw [Nat.ofDigitChars_eq_foldl] at hvalue
  simp only [Calendar.takeDigits, List.take_left, List.drop_left, hall, decide_true, Bool.and_self,
    if_true, hvalue]

theorem IsNumeral.exists_cons {width n : Nat} {s : List Char} (h : IsNumeral (width + 1) n s) :
    ∃ c cs, s = c :: cs ∧ c.isDigit = true ∧ cs.length = width := by
  match s, h with
  | c :: cs, h => exact ⟨c, cs, rfl, h.digits c List.mem_cons_self, Nat.succ.inj h.length⟩

/-! ## 2. Dates -/

theorem dateLength_of_hyphen {a b c d e : Char} {rest : List Char} (he : e ≠ 'W')
    (hrest : rest.length ≠ 1) : dateLength (a :: b :: c :: d :: '-' :: e :: rest) = 10 := by
  simp [dateLength, he, hrest]

def IsDate (d : Date) (s : List Char) : Prop :=
  ∃ year month day, IsNumeral 4 d.year year ∧ IsNumeral 2 d.month month ∧
    IsNumeral 2 d.day day ∧ s = year ++ '-' :: (month ++ '-' :: day)

theorem isDate_iso {d : Date} (h : d.isValid = true) : IsDate d d.iso.toList := by
  simp only [Date.isValid, Bool.and_eq_true, decide_eq_true_eq] at h
  obtain ⟨⟨⟨⟨⟨hyear, hyear'⟩, hm⟩, hm'⟩, hd⟩, hd'⟩ := h
  have hday : d.day ≤ 31 := by
    refine Nat.le_trans hd' ?_
    unfold daysInMonth
    split <;> first | decide | (split <;> decide)
  refine ⟨_, _, _, isNumeral_padded (by decide) ?_, isNumeral_padded (by decide) ?_,
    isNumeral_padded (by decide) ?_, ?_⟩
  · exact Nat.lt_of_le_of_lt hyear' (by decide)
  · exact Nat.lt_of_le_of_lt hm' (by decide)
  · exact Nat.lt_of_le_of_lt hday (by decide)
  · simp [Date.iso]

theorem IsDate.length {d : Date} {s : List Char} (h : IsDate d s) : s.length = 10 := by
  obtain ⟨year, month, day, hyear, hmonth, hday, rfl⟩ := h
  simp [hyear.length, hmonth.length, hday.length]

theorem IsDate.char {d : Date} {s : List Char} (h : IsDate d s) {c : Char} (hc : c ∈ s) :
    c.isDigit = true ∨ c = '-' := by
  obtain ⟨year, month, day, hyear, hmonth, hday, rfl⟩ := h
  simp only [List.mem_append, List.mem_cons] at hc
  rcases hc with hc | rfl | hc | rfl | hc
  · exact .inl (hyear.digits c hc)
  · exact .inr rfl
  · exact .inl (hmonth.digits c hc)
  · exact .inr rfl
  · exact .inl (hday.digits c hc)

theorem IsDate.dateLength {d : Date} {s : List Char} (h : IsDate d s) (rest : List Char) :
    dateLength (s ++ rest) = 10 := by
  obtain ⟨year, month, day, hyear, hmonth, hday, rfl⟩ := h
  obtain ⟨e, month, rfl, he, hmonth'⟩ := hmonth.exists_cons
  match year, hyear.length with
  | [a, b, c, d], _ =>
    have hletter : e ≠ 'W' := by
      rintro rfl
      exact absurd he (by decide)
    have hrest : (month ++ '-' :: day ++ rest).length ≠ 1 := by
      simp only [List.length_append, List.length_cons, hmonth', hday.length]
      omega
    exact dateLength_of_hyphen hletter hrest

theorem IsDate.readDate {d : Date} {s : List Char} (h : IsDate d s) (hd : d.isValid = true) :
    readDate s = some d := by
  obtain ⟨year, month, day, hyear, hmonth, hday, rfl⟩ := h
  have hlast := hday.takeDigits []
  rw [List.append_nil] at hlast
  simp only [Calendar.readDate, hyear.takeDigits, Option.bind_eq_bind, Option.bind_some,
    List.head?_cons, beq_self_eq_true, if_true, List.tail_cons]
  split
  · next rest hrest =>
    -- a week would begin with a letter where the month has a digit
    obtain ⟨e, month, rfl, he, -⟩ := hmonth.exists_cons
    cases hrest
    exact absurd he (by decide)
  · simp [hmonth.takeDigits, hlast, hd]

/-! ## 3. Times -/

def IsFraction (micro : Nat) (s : List Char) : Prop :=
  (micro = 0 ∧ s = []) ∨ ∃ digits, IsNumeral 6 micro digits ∧ s = '.' :: digits

def IsTime (c : Clock) (s : List Char) : Prop :=
  ∃ hour minute sec fraction, IsNumeral 2 c.hour hour ∧ IsNumeral 2 c.minute minute ∧
    IsNumeral 2 c.second sec ∧ IsFraction c.micro fraction ∧
    s = hour ++ ':' :: (minute ++ ':' :: (sec ++ fraction))

theorem isFraction_padded {micro : Nat} (h : micro < 1000000) :
    IsFraction micro (if micro = 0 then "" else "." ++ padded 6 micro).toList := by
  by_cases hmicro : micro = 0
  · exact .inl ⟨hmicro, by simp [hmicro]⟩
  · refine .inr ⟨_, isNumeral_padded (by decide) h, ?_⟩
    simp [hmicro]

theorem isTime_iso {c : Clock} (h : c.isValid = true) : IsTime c c.iso.toList := by
  simp only [Clock.isValid, Bool.and_eq_true, decide_eq_true_eq] at h
  obtain ⟨⟨⟨hhour, hminute⟩, hsecond⟩, hmicro⟩ := h
  refine ⟨_, _, _, _, isNumeral_padded (by decide) ?_, isNumeral_padded (by decide) ?_,
    isNumeral_padded (by decide) ?_, isFraction_padded hmicro, ?_⟩
  · omega
  · omega
  · omega
  · simp [Clock.iso]

theorem IsTime.char {c : Clock} {s : List Char} (h : IsTime c s) {d : Char} (hd : d ∈ s) :
    d.isDigit = true ∨ d = ':' ∨ d = '.' := by
  obtain ⟨hour, minute, sec, fraction, hhour, hminute, hsec, hfraction, rfl⟩ := h
  simp only [List.mem_append, List.mem_cons] at hd
  rcases hd with hd | rfl | hd | rfl | hd | hd
  · exact .inl (hhour.digits d hd)
  · exact .inr (.inl rfl)
  · exact .inl (hminute.digits d hd)
  · exact .inr (.inl rfl)
  · exact .inl (hsec.digits d hd)
  · rcases hfraction with ⟨-, rfl⟩ | ⟨digits, hdigits, rfl⟩
    · cases hd
    · rcases List.mem_cons.1 hd with rfl | hd
      · exact .inr (.inr rfl)
      · exact .inl (hdigits.digits d hd)

theorem isShort_cons {c : Char} {s : List Char} (h : s ≠ []) : isShort (c :: s) = false := by
  cases s with
  | nil => exact absurd rfl h
  | cons d s => rfl

theorem IsNumeral.append_ne_nil {width n : Nat} {s : List Char} (h : IsNumeral (width + 1) n s)
    (rest : List Char) : s ++ rest ≠ [] := by
  obtain ⟨c, cs, rfl, -⟩ := h.exists_cons
  simp

/-- A time is read up to a text that starts with no digit. -/
theorem IsTime.readClock {c : Clock} {s : List Char} (h : IsTime c s) {after : List Char}
    (hafter : ∀ d ∈ after.head?, d.isDigit = false) :
    readClock s after = some ⟨c, after.headD '\x00' != '\x00'⟩ := by
  obtain ⟨hour, minute, sec, fraction, hhour, hminute, hsec, hfraction, rfl⟩ := h
  have hshort : isShort (':' :: (minute ++ ':' :: (sec ++ fraction))) = false :=
    isShort_cons (hminute.append_ne_nil _)
  have hshort' : isShort (':' :: (sec ++ fraction)) = false := isShort_cons (hsec.append_ne_nil _)
  simp only [Calendar.readClock, hhour.takeDigits, hminute.takeDigits, hsec.takeDigits,
    Option.bind_eq_bind, Option.bind_some, hshort, hshort', List.cons_append, List.headD_cons,
    List.tail_cons, beq_self_eq_true, if_true]
  rw [if_neg (by decide), if_neg (by decide), if_neg (by decide), if_neg (by decide),
    if_neg (by decide)]
  -- a time without a fraction is followed by nothing that could be one
  rcases hfraction with ⟨hmicro, rfl⟩ | ⟨digits, hdigits, rfl⟩
  · rw [if_pos (show isShort [] = true from rfl), ← hmicro, List.nil_append]
    rfl
  · have hlong : isShort ('.' :: digits) = false :=
      isShort_cons (by simpa using hdigits.append_ne_nil [])
    have hdrop : after.dropWhile Char.isDigit = after := by
      cases after with
      | nil => rfl
      | cons d after => rw [List.dropWhile_cons_of_neg (by simp [hafter d rfl])]
    have hmicro := hdigits.takeDigits []
    rw [List.append_nil] at hmicro
    rw [if_neg (by simp [hlong]), if_pos (by simp), List.tail_cons, readFraction, hdigits.length]
    simp [hmicro, hdrop]

/-- Hours and minutes alone are read up to the end of a text. -/
theorem readClock_short {c : Clock} {hour minute : List Char} (hhour : IsNumeral 2 c.hour hour)
    (hminute : IsNumeral 2 c.minute minute) (hsecond : c.second = 0) (hmicro : c.micro = 0) :
    readClock (hour ++ ':' :: minute) [] = some ⟨c, false⟩ := by
  have hshort : isShort (':' :: minute) = false :=
    isShort_cons (by simpa using hminute.append_ne_nil [])
  have hend := hminute.takeDigits []
  rw [List.append_nil] at hend
  simp only [Calendar.readClock, hhour.takeDigits, hend, Option.bind_eq_bind, Option.bind_some,
    hshort, List.append_nil, List.headD_cons, List.tail_cons, beq_self_eq_true, if_true]
  rw [if_neg (by decide), if_neg (by decide), if_pos (show isShort [] = true from rfl),
    ← hsecond]
  obtain ⟨hours, minutes, seconds, micros⟩ := c
  cases hsecond
  cases hmicro
  rfl

/-! ## 4. Moments -/

/-- Whether a moment can be written: the calendar has its reading, and its offset is shorter than a
day. -/
structure Moment.IsWritable (m : Moment) : Prop where
  reading : m.reading < readingLimit
  offset : m.offset.natAbs < day

/-- The offset that is read from the text of an offset: of one below a second nothing is left. -/
def toldOffset (offset : Int) : Int := if offset.natAbs < second then 0 else offset

/-- The moment that is read from the text of a moment. -/
def Moment.told (m : Moment) : Moment := ⟨m.reading, toldOffset m.offset⟩

/-- The text of an offset: a sign and a time. -/
theorem exists_offset {offset : Int} (h : offset.natAbs < day) :
    ∃ s, (offsetText offset).toList = (if offset < 0 then '-' else '+') :: s ∧
      readClock s [] = some ⟨Clock.ofMicros offset.natAbs, false⟩ ∧
      ∀ d ∈ s, d.isDigit = true ∨ d = ':' ∨ d = '.' := by
  have hvalid := Clock.isValid_ofMicros h
  obtain ⟨c, hc⟩ : ∃ c, c = Clock.ofMicros offset.natAbs := ⟨_, rfl⟩
  rw [← hc] at hvalid ⊢
  have hsign : (if offset < 0 then "-" else "+").toList = [if offset < 0 then '-' else '+'] := by
    split <;> rfl
  unfold offsetText
  simp only [← hc, String.toList_append, hsign]
  by_cases htail : c.second = 0 ∧ c.micro = 0
  · -- whole minutes are written as hours and minutes alone
    simp only [Clock.isValid, Bool.and_eq_true, decide_eq_true_eq] at hvalid
    obtain ⟨⟨⟨hhour, hminute⟩, -⟩, -⟩ := hvalid
    have hhours : IsNumeral 2 c.hour (padded 2 c.hour).toList :=
      isNumeral_padded (by decide) (by omega)
    have hminutes : IsNumeral 2 c.minute (padded 2 c.minute).toList :=
      isNumeral_padded (by decide) (by omega)
    refine ⟨_, ?_, readClock_short hhours hminutes htail.1 htail.2, fun d hd => ?_⟩
    · simp [htail]
    · rcases List.mem_append.1 hd with hd | hd
      · exact .inl (hhours.digits d hd)
      · rcases List.mem_cons.1 hd with rfl | hd
        · exact .inr (.inl rfl)
        · exact .inl (hminutes.digits d hd)
  · -- any other offset is written as a time of day
    have htime := isTime_iso hvalid
    refine ⟨c.iso.toList, ?_, htime.readClock (by simp), fun d hd => htime.char hd⟩
    simp [Clock.iso, if_neg htail]

/-- No sign of an offset stands in a time. -/
theorem IsTime.noZone {c : Clock} {s : List Char} (h : IsTime c s) {d : Char} (hd : d ∈ s) :
    (!(d == '+' || d == '-' || d == 'Z')) = true := by
  simp only [Bool.not_eq_true', Bool.or_eq_false_iff, beq_eq_false_iff_ne]
  refine ⟨⟨?_, ?_⟩, ?_⟩ <;>
  · rintro rfl
    exact absurd (h.char hd) (by decide)

theorem IsTime.span {c : Clock} {s : List Char} (h : IsTime c s) {sign : Char}
    (hsign : sign = '+' ∨ sign = '-') (zone : List Char) :
    (s ++ sign :: zone).span (fun d => !(d == '+' || d == '-' || d == 'Z')) =
      (s, sign :: zone) := by
  have hstop : ¬(!(sign == '+' || sign == '-' || sign == 'Z')) = true := by
    rcases hsign with rfl | rfl <;> decide
  rw [List.span_eq_takeWhile_dropWhile, List.takeWhile_append_of_pos fun d hd => h.noZone hd,
    List.dropWhile_append_of_pos fun d hd => h.noZone hd, List.takeWhile_cons, List.dropWhile_cons,
    if_neg hstop, if_neg hstop, List.append_nil]

/-- An offset without whole seconds is taken for none, and any other one as it is. -/
theorem micros_of_clock (n : Nat) :
    (if (Clock.ofMicros n).hour * 3600 + (Clock.ofMicros n).minute * 60 +
        (Clock.ofMicros n).second = 0 then 0
      else ((Clock.ofMicros n).hour * 3600 + (Clock.ofMicros n).minute * 60 +
        (Clock.ofMicros n).second) * second + (Clock.ofMicros n).micro) =
      if n < second then 0 else n := by
  have hseconds : (Clock.ofMicros n).hour * 3600 + (Clock.ofMicros n).minute * 60 +
      (Clock.ofMicros n).second = n / second := by
    simp only [Clock.ofMicros]
    omega
  have hzero : n / second = 0 ↔ n < second := Nat.div_eq_zero_iff_lt (by decide)
  rw [hseconds, if_congr hzero rfl rfl]
  split
  · rfl
  · exact Nat.div_add_mod' n second

theorem readTime_offset {c : Clock} {s : List Char} {offset : Int} (h : IsTime c s)
    (hoffset : offset.natAbs < day) :
    readTime (s ++ (offsetText offset).toList) = some (c, some (toldOffset offset)) := by
  obtain ⟨zone, hzone, hread, -⟩ := exists_offset hoffset
  have hmicros := micros_of_clock offset.natAbs
  have hlimit : (if offset.natAbs < second then 0 else offset.natAbs) < day := by
    split
    · decide
    · exact hoffset
  -- the time ends at the sign, and the sign is no part of the distance
  obtain ⟨sign, hsign⟩ : ∃ sign, sign = if offset < 0 then '-' else '+' := ⟨_, rfl⟩
  rw [hzone, ← hsign]
  have hsigns : sign = '+' ∨ sign = '-' := by
    rw [hsign]
    split <;> simp
  have hclock : readClock s (sign :: zone) = some ⟨c, sign != '\x00'⟩ := by
    refine h.readClock fun d hd => ?_
    cases hd
    rcases hsigns with rfl | rfl <;> decide
  simp only [readTime, h.span hsigns, hclock, Option.bind_eq_bind, Option.bind_some]
  split
  · next hnil => cases hnil
  · next hz =>
    cases hz
    rcases hsigns with h | h <;> cases h
  · next hcons =>
    cases hcons
    rw [hread, Option.bind_some, if_neg (by simp), hmicros, if_pos hlimit, toldOffset]
    by_cases hnegative : offset < 0
    · rw [hsign, if_pos hnegative, if_pos (by decide)]
      congr 3
      split <;> omega
    · rw [hsign, if_neg hnegative, if_neg (by decide)]
      congr 3
      split <;> omega

theorem toList_iso (m : Moment) : m.iso.toList = (dateOf m.reading).iso.toList ++
    'T' :: ((clockOf m.reading).iso.toList ++ (offsetText m.offset).toList) := by
  simp [Moment.iso, readingText]

/-- The text of a moment is read as this moment, but for an offset below a second. -/
theorem readDateTime_iso {m : Moment} (h : m.IsWritable) :
    readDateTime m.iso.toList = some ⟨m.reading, some (toldOffset m.offset)⟩ := by
  have hdate := isDate_iso (isValid_dateOf h.reading)
  have htime := isTime_iso (isValid_clockOf m.reading)
  have htake : ∀ rest, ((dateOf m.reading).iso.toList ++ rest).take 10 =
      (dateOf m.reading).iso.toList := by
    intro rest
    rw [← hdate.length, List.take_left]
  have hdrop : ∀ rest, ((dateOf m.reading).iso.toList ++ rest).drop 10 = rest := by
    intro rest
    rw [← hdate.length, List.drop_left]
  rw [readDateTime, toList_iso, hdate.dateLength, htake, hdrop,
    hdate.readDate (isValid_dateOf h.reading)]
  simp only [Option.bind_eq_bind, Option.bind_some, readTime_offset htime h.offset,
    isValid_clockOf, if_true, readingOf_dateOf]
  rfl

/-- What a moment is written with. -/
theorem iso_char {m : Moment} (h : m.IsWritable) {c : Char} (hc : c ∈ m.iso.toList) :
    c.isDigit = true ∨ c ∈ ['-', 'T', ':', '.', '+'] := by
  obtain ⟨zone, hzone, -, hchars⟩ := exists_offset h.offset
  rw [toList_iso, hzone] at hc
  simp only [List.mem_append, List.mem_cons] at hc
  rcases hc with hc | rfl | hc | hc | hc
  · exact ((isDate_iso (isValid_dateOf h.reading)).char hc).imp id (by rintro rfl; decide)
  · exact .inr (by decide)
  · exact ((isTime_iso (isValid_clockOf m.reading)).char hc).imp id
      (by rintro (rfl | rfl) <;> decide)
  · right
    split at hc <;>
    · rw [hc]
      decide
  · exact (hchars c hc).imp id (by rintro (rfl | rfl) <;> decide)

/-- The text of a moment begins with a year and a hyphen. -/
theorem exists_year_iso {m : Moment} (h : m.IsWritable) :
    ∃ year rest, IsNumeral 4 (dateOf m.reading).year year ∧ m.iso.toList = year ++ '-' :: rest := by
  obtain ⟨year, month, day, hyear, -, -, htext⟩ := isDate_iso (isValid_dateOf h.reading)
  rw [toList_iso, htext, List.append_assoc, List.cons_append]
  exact ⟨year, _, hyear, rfl⟩

/-! ## 5. What is read can be written -/

theorem isValid_of_ofWeek? {year week weekday : Nat} {d : Date}
    (h : Date.ofWeek? year week weekday = some d) : d.isValid = true := by
  unfold Date.ofWeek? at h
  dsimp only at h
  split at h
  · split at h
    · next hvalid =>
      cases h
      exact hvalid
    · cases h
  · cases h

theorem isValid_of_readDate {s : List Char} {d : Date} (h : readDate s = some d) :
    d.isValid = true := by
  unfold readDate at h
  obtain ⟨⟨year, rest⟩, -, h⟩ := Option.bind_eq_some_iff.1 h
  dsimp only at h
  -- a week and a weekday, or a month and a day
  split at h
  · obtain ⟨⟨week, rest⟩, -, h⟩ := Option.bind_eq_some_iff.1 h
    dsimp only at h
    split at h
    · exact isValid_of_ofWeek? h
    · obtain ⟨after, -, h⟩ := Option.bind_eq_some_iff.1 h
      obtain ⟨⟨weekday, _⟩, -, h⟩ := Option.bind_eq_some_iff.1 h
      exact isValid_of_ofWeek? h
  · obtain ⟨⟨month, rest⟩, -, h⟩ := Option.bind_eq_some_iff.1 h
    obtain ⟨after, -, h⟩ := Option.bind_eq_some_iff.1 h
    obtain ⟨⟨dayOfMonth, rest⟩, -, h⟩ := Option.bind_eq_some_iff.1 h
    dsimp only at h
    split at h
    · next hvalid =>
      cases h
      exact (Bool.and_eq_true_iff.1 hvalid).2
    · cases h

theorem lt_day_of_readTime {s : List Char} {c : Clock} {offset : Int}
    (h : readTime s = some (c, some offset)) : offset.natAbs < day := by
  unfold readTime at h
  dsimp only at h
  obtain ⟨read, -, h⟩ := Option.bind_eq_some_iff.1 h
  split at h
  · split at h <;> cases h
  · split at h
    · cases h
      decide
    · cases h
  · obtain ⟨clock, -, h⟩ := Option.bind_eq_some_iff.1 h
    split at h
    · cases h
    · -- a distance of a day or more is refused
      generalize (if _ = 0 then 0 else _ : Nat) = micros at h
      split at h
      · next hday =>
        simp only [Option.some.injEq, Prod.mk.injEq] at h
        obtain ⟨-, rfl⟩ := h
        split
        · rwa [Int.natAbs_neg, Int.natAbs_natCast]
        · rwa [Int.natAbs_natCast]
      · cases h

theorem isWritable_of_readDateTime {s : List Char} {d : DateTime} (h : readDateTime s = some d) :
    d.reading < readingLimit ∧
      ∀ offset, d.offset? = some offset → Moment.IsWritable ⟨d.reading, offset⟩ := by
  unfold readDateTime at h
  obtain ⟨date, hdate, h⟩ := Option.bind_eq_some_iff.1 h
  have hvalid := isValid_of_readDate hdate
  split at h
  · cases h
    exact ⟨readingOf_lt hvalid (by decide), fun offset ho => by cases ho⟩
  · obtain ⟨⟨clock, offset?⟩, htime, h⟩ := Option.bind_eq_some_iff.1 h
    dsimp only at h
    split at h
    · next hclock =>
      cases h
      refine ⟨readingOf_lt hvalid hclock, fun offset ho => ?_⟩
      cases ho
      exact ⟨readingOf_lt hvalid hclock, lt_day_of_readTime htime⟩
    · cases h

end FileQuery.Calendar
