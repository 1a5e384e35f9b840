import FileQuery.Evaluate.Compare
import FileQuery.Proofs.Calendar.Ordinal
import FileQuery.Proofs.Query.Literal.Bounds
import FileQuery.Proofs.Query.Literal.Time

/-!
# Comparing moments

Moments are ordered as they follow one another, wherever they were noted.  They are equal if the same day
is shown at the place where the query is asked; to find that day, both are converted to universal time
and then to the time there, and each of these readings has to lie in the calendar.
-/

namespace FileQuery.Calendar

/-! ## 1. The day that a place shows -/

/-- Whether a moment can be converted: universal time and the local time of it lie in the calendar. -/
structure Moment.IsReached (zone : Zone) (m : Moment) : Prop where
  universal : 0 ≤ m.instant ∧ m.instant < readingLimit
  there : 0 ≤ m.instant + zone.offsetAt m.instant ∧
    m.instant + zone.offsetAt m.instant < readingLimit

/-- The number of whole days from the start of year 1 until a moment, by the local clock. -/
def Moment.dayAt (zone : Zone) (m : Moment) : Int := (m.instant + zone.offsetAt m.instant) / day

/-- A moment has a date exactly if it can be converted: the date of the reading there. -/
theorem dateAt_ok_iff {zone : Zone} {m : Moment} {date : Date} :
    m.dateAt zone = .ok date ↔
      m.IsReached zone ∧ date = dateOf (m.instant + zone.offsetAt m.instant).toNat := by
  have hinstant : (m.reading : Int) + -m.offset = m.instant := Int.add_neg_eq_sub
  unfold Moment.dateAt Zone.momentAt
  -- both steps stay in the calendar: to universal time, and from there to the zone
  constructor
  · intro h
    obtain ⟨universal, huniversal, h⟩ := bind_eq_ok.1 h
    obtain ⟨there, hthere, h⟩ := bind_eq_ok.1 h
    obtain ⟨reading, hreading, rfl⟩ := map_eq_ok.1 hthere
    rw [addReading_ok_iff, hinstant] at huniversal
    rw [addReading_ok_iff, huniversal.2.2] at hreading
    cases h
    refine ⟨⟨⟨huniversal.1, huniversal.2.1⟩, hreading.1, hreading.2.1⟩, ?_⟩
    rw [← hreading.2.2, Int.toNat_natCast]
  · rintro ⟨hreached, rfl⟩
    have hnat : (m.instant.toNat : Int) = m.instant := Int.toNat_of_nonneg hreached.universal.1
    have huniversal : addReading m.reading (-m.offset) = .ok m.instant.toNat := by
      rw [addReading_ok_iff, hinstant]
      exact ⟨hreached.universal.1, hreached.universal.2, hnat⟩
    have hthere : addReading m.instant.toNat (zone.offsetAt m.instant.toNat) =
        .ok (m.instant + zone.offsetAt m.instant).toNat := by
      rw [addReading_ok_iff, hnat]
      exact ⟨hreached.there.1, hreached.there.2, Int.toNat_of_nonneg hreached.there.1⟩
    exact bind_eq_ok.2 ⟨_, huniversal, bind_eq_ok.2 ⟨_, map_eq_ok.2 ⟨_, hthere, rfl⟩, rfl⟩⟩

theorem dateAt_of_not_isReached {zone : Zone} {m : Moment} (h : ¬m.IsReached zone) :
    m.dateAt zone = .error .moment := by
  cases hdate : m.dateAt zone with
  | ok date => exact absurd (dateAt_ok_iff.1 hdate).1 h
  | error fault =>
    -- either step can fail, and both fail alike
    unfold Moment.dateAt at hdate
    rcases bind_eq_error.1 hdate with huniversal | ⟨universal, -, hdate⟩
    · rw [(addReading_error_iff.1 huniversal).1]
    · rcases bind_eq_error.1 hdate with hthere | ⟨there, -, hpure⟩
      · rw [(Zone.momentAt_error_iff.1 hthere).1]
      · cases hpure

/-- Readings have the same date if the same number of whole days has passed. -/
theorem dateOf_eq_iff {reading other : Nat} :
    dateOf reading = dateOf other ↔ reading / day = other / day := by
  constructor
  · intro h
    have hordinal := congrArg Date.ordinal h
    rw [dateOf, dateOf, Date.ordinal_ofOrdinal (Nat.le_add_left 1 _),
      Date.ordinal_ofOrdinal (Nat.le_add_left 1 _)] at hordinal
    exact Nat.succ.inj hordinal
  · intro h
    rw [dateOf, dateOf, h]

theorem dateOf_toNat_eq_iff {zone : Zone} {m n : Moment} (hm : m.IsReached zone)
    (hn : n.IsReached zone) : dateOf (m.instant + zone.offsetAt m.instant).toNat =
      dateOf (n.instant + zone.offsetAt n.instant).toNat ↔ m.dayAt zone = n.dayAt zone := by
  have hday : ∀ k : Moment, k.IsReached zone →
      k.dayAt zone = (((k.instant + zone.offsetAt k.instant).toNat / day : Nat) : Int) := by
    intro k hk
    rw [Moment.dayAt, Int.natCast_div, Int.toNat_of_nonneg hk.there.1]
  rw [dateOf_eq_iff, hday m hm, hday n hn, Int.natCast_inj]

/-- Offsets are shorter than a day, so only moments in the first or the last two days of the calendar
are out of reach. -/
theorem isReached_of_far {zone : Zone} {m : Moment} (hoffset : m.offset.natAbs < day)
    (hfirst : 2 * day ≤ m.reading) (hlast : m.reading + 2 * day ≤ readingLimit) :
    m.IsReached zone := by
  have hinstant : m.instant = m.reading - m.offset := rfl
  have hzone := zone.offsetAt_lt_day m.instant
  constructor <;> omega

/-- What the local clock shows can be converted. -/
theorem isReached_of_momentOf {zone : Zone} {fold : Bool} {reading : Nat} {m : Moment}
    (h : zone.momentOf fold reading = .ok m) : m.IsReached zone := by
  obtain ⟨universal, hlimit, hmoment⟩ := Zone.exists_momentAt_of_momentOf h
  obtain ⟨hstays, -, hinstant⟩ := Zone.momentAt_ok_iff.1 hmoment
  unfold LeavesCalendar at hstays
  constructor <;> rw [hinstant] <;> omega

end FileQuery.Calendar

namespace FileQuery.Query

open Calendar (Moment PlacedMoment Zone day readingLimit)

/-! ## 2. Comparing -/

theorem compareMoments_of_date (zone : Zone) {op : Operator} (h : op = .eq ∨ op = .ne)
    (value actual : Moment) : compareMoments zone op value actual = (do
      let date ← (actual.dateAt zone).mapError CompareFault.range
      let wanted ← (value.dateAt zone).mapError CompareFault.range
      return (date == wanted) == (op = .eq)) := by
  rw [compareMoments, if_pos (by simpa using h)]

/-- Moments that can both be converted are equal if they fall on the same day. -/
theorem compareMoments_of_isReached {zone : Zone} {value actual : Moment}
    (hvalue : value.IsReached zone) (hactual : actual.IsReached zone) {op : Operator}
    (h : op = .eq ∨ op = .ne) : compareMoments zone op value actual =
      .ok (decide (actual.dayAt zone = value.dayAt zone) == (op = .eq)) := by
  have hdate : (Calendar.dateOf (actual.instant + zone.offsetAt actual.instant).toNat ==
      Calendar.dateOf (value.instant + zone.offsetAt value.instant).toNat) =
        decide (actual.dayAt zone = value.dayAt zone) := by
    rw [Bool.eq_iff_iff, beq_iff_eq, Calendar.dateOf_toNat_eq_iff hactual hvalue,
      decide_eq_true_eq]
  rw [compareMoments_of_date zone h, Calendar.dateAt_ok_iff.2 ⟨hactual, rfl⟩,
    Calendar.dateAt_ok_iff.2 ⟨hvalue, rfl⟩, ← hdate]
  rfl

/-- If one of two moments cannot be converted, neither equality nor its opposite has an answer. -/
theorem compareMoments_of_not_isReached {zone : Zone} {value actual : Moment}
    (hout : ¬(value.IsReached zone ∧ actual.IsReached zone)) {op : Operator}
    (h : op = .eq ∨ op = .ne) :
    compareMoments zone op value actual = .error (.range .moment) := by
  rw [compareMoments_of_date zone h]
  by_cases hactual : actual.IsReached zone
  · rw [Calendar.dateAt_ok_iff.2 ⟨hactual, rfl⟩,
      Calendar.dateAt_of_not_isReached fun hvalue => hout ⟨hvalue, hactual⟩]
    rfl
  · rw [Calendar.dateAt_of_not_isReached hactual]
    rfl

/-! ## 3. Times in queries -/

/-- A date or a date and time that names no offset, and so is meant by the local clock. -/
def IsLocalTime (text : String) : Prop :=
  isTimeKeyword text = false ∧ distance? text = none ∧
    ∃ reading, Calendar.readDateTime (Text.trim text.toList) = some ⟨reading, none⟩

/-- What is meant by the local clock can be converted to its time, or is not accepted. -/
theorem isReached_of_readMoment {clock : Clock} {text : String} {value : PlacedMoment}
    (hlocal : IsLocalTime text) (h : readMoment clock text = .ok value) :
    value.IsReached clock.zone := by
  obtain ⟨hkeyword, hdistance, reading, hread⟩ := hlocal
  rw [readMoment_of_not_keyword hkeyword, hdistance] at h
  obtain ⟨moment, hmoment, rfl⟩ := map_eq_ok.1 h
  rw [readAbsolute, hread] at hmoment
  exact Calendar.isReached_of_momentOf (mapError_eq_ok.1 hmoment)

/-- Comparing moments by their order always has an answer, and so has comparing them by their dates
where both can be converted: they are equal if they fall on the same day by the clock of the place.  If
one of them cannot be converted, the comparison breaks off.  That can only happen to moments in the
first and the last two days of the calendar, and not to a time in a query that names no offset. -/
theorem compareMoments_answers (zone : Zone) (value actual : Moment) :
    compareMoments zone .gt value actual = .ok (decide (value.instant < actual.instant)) ∧
    compareMoments zone .ge value actual = .ok (decide (value.instant ≤ actual.instant)) ∧
    compareMoments zone .lt value actual = .ok (decide (actual.instant < value.instant)) ∧
    compareMoments zone .le value actual = .ok (decide (actual.instant ≤ value.instant)) ∧
    (value.IsReached zone ∧ actual.IsReached zone →
      compareMoments zone .eq value actual =
        .ok (decide (actual.dayAt zone = value.dayAt zone)) ∧
      compareMoments zone .ne value actual =
        .ok (!decide (actual.dayAt zone = value.dayAt zone))) ∧
    (¬(value.IsReached zone ∧ actual.IsReached zone) → ∀ op ∈ [Operator.eq, .ne],
      compareMoments zone op value actual = .error (.range .moment)) ∧
    (∀ m : Moment, m.offset.natAbs < day → 2 * day ≤ m.reading →
      m.reading + 2 * day ≤ readingLimit → m.IsReached zone) ∧
    (∀ clock text fold, clock.zone = zone → IsLocalTime text →
      readMoment clock text = .ok ⟨value, fold⟩ → value.IsReached zone) := by
  -- only equality goes by dates
  have horder : ∀ {op : Operator} {b : Bool}, op ≠ .eq → op ≠ .ne →
      op.decide? (compare actual.instant value.instant) = some b →
        compareMoments zone op value actual = .ok b := by
    intro op b heq hne hb
    rw [compareMoments, if_neg (by simp [heq, hne]), compareBy, hb]
  refine ⟨horder nofun nofun ?_, horder nofun nofun ?_, horder nofun nofun ?_,
    horder nofun nofun ?_, ?_, ?_, ?_, ?_⟩
  · exact congrArg some (Bool.eq_iff_iff.2 (by simp [Int.compare_eq_gt]))
  · exact congrArg some (Bool.eq_iff_iff.2 (by simp [Int.compare_eq_lt]))
  · exact congrArg some (Bool.eq_iff_iff.2 (by simp [Int.compare_eq_lt]))
  · exact congrArg some (Bool.eq_iff_iff.2 (by simp [Int.compare_eq_gt]))
  · rintro ⟨hvalue, hactual⟩
    refine ⟨(compareMoments_of_isReached hvalue hactual (.inl rfl)).trans ?_,
      (compareMoments_of_isReached hvalue hactual (.inr rfl)).trans ?_⟩
    · simp
    · simp
  · intro hout op hop
    exact compareMoments_of_not_isReached hout (by simpa using hop)
  · exact fun m => Calendar.isReached_of_far
  · rintro clock text fold rfl hlocal h
    exact isReached_of_readMoment hlocal h

/-- When a clock an hour east of universal time shows the first moment of the calendar, universal time
is not in the calendar yet.  A query may name this moment, but equality with it has no answer. -/
theorem compareMoments_breaksOff :
    let clock : Clock := ⟨.fixed Calendar.epoch 0, .fixed 0⟩
    let value : Moment := ⟨0, 3600000000⟩
    readMoment clock "0001-01-01T00:00:00+01:00" = .ok ⟨value, false⟩ ∧
      value.dayAt clock.zone ≠ clock.now.moment.dayAt clock.zone ∧
      compareMoments clock.zone .eq value clock.now.moment.toMoment =
        .error (.range .moment) := by
  decide +kernel

end FileQuery.Query
