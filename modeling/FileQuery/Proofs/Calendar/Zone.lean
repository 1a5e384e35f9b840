import FileQuery.Calendar.Zone
import FileQuery.Proofs.Calendar.Ordinal
import FileQuery.Proofs.Result

/-!
# Time zones

A zone finds the second of universal time at which its clock shows a second, or meets a year that is
none.  What it finds may still lie out of the calendar.
-/

namespace FileQuery.Calendar

/-! ## 1. Distances -/

/-- A distance from a reading that ends before year 1 or after year 9999. -/
def LeavesCalendar (reading : Nat) (distance : Int) : Prop :=
  (reading : Int) + distance < 0 ∨ (readingLimit : Int) ≤ reading + distance

section distances

variable {reading n : Nat} {distance : Int} {fault : RangeFault}

theorem addReading_ok_iff : addReading reading distance = .ok n ↔
    0 ≤ reading + distance ∧ reading + distance < readingLimit ∧ (n : Int) = reading + distance := by
  unfold addReading
  dsimp only
  split
  · next hrange =>
    simp only [Bool.and_eq_true, decide_eq_true_eq] at hrange
    rw [Except.ok.injEq]
    omega
  · next hrange =>
    simp only [Bool.and_eq_true, decide_eq_true_eq] at hrange
    exact iff_of_false nofun fun h => hrange ⟨h.1, h.2.1⟩

theorem addReading_error_iff :
    addReading reading distance = .error fault ↔ fault = .moment ∧ LeavesCalendar reading distance := by
  unfold addReading LeavesCalendar
  dsimp only
  by_cases hrange : (0 ≤ (reading : Int) + distance && (reading : Int) + distance < readingLimit) = true
  · rw [if_pos hrange]
    simp only [Bool.and_eq_true, decide_eq_true_eq] at hrange
    refine iff_of_false nofun fun h => ?_
    omega
  · rw [if_neg hrange]
    simp only [Bool.and_eq_true, decide_eq_true_eq, not_and] at hrange
    constructor
    · intro h
      cases h
      refine ⟨rfl, ?_⟩
      omega
    · rintro ⟨rfl, -⟩
      rfl

theorem lt_of_addReading (h : addReading reading distance = .ok n) : n < readingLimit := by
  have hok := addReading_ok_iff.1 h
  omega

end distances

namespace Zone

variable {zone : Zone} {fault : RangeFault}

/-- Microseconds of a whole number of seconds that is less than a day. -/
theorem natAbs_mul_second {n : Int} (h : n.natAbs < daySeconds.natAbs) :
    (n * second).natAbs < day := by
  rw [Int.natAbs_mul]
  unfold daySeconds at h
  unfold day
  have hsecond : (second : Int).natAbs = second := rfl
  have hpositive : 0 < second := by decide
  rw [hsecond]
  exact Nat.mul_lt_mul_of_pos_right h hpositive

theorem offsetAt_lt_day (zone : Zone) (universal : Int) : (zone.offsetAt universal).natAbs < day :=
  natAbs_mul_second (zone.lt_day _)

/-! ## 2. Finding the second -/

theorem exists_year_of_shownAt {t : Int} (h : zone.shownAt t = .error fault) :
    ∃ year, fault = .year year := by
  unfold shownAt at h
  dsimp only at h
  split at h
  · cases h
  · cases h
    exact ⟨_, rfl⟩

theorem exists_year_of_distanceAt {t : Int} (h : zone.distanceAt t = .error fault) :
    ∃ year, fault = .year year :=
  exists_year_of_shownAt (map_eq_error.1 h)

/-- Where no second is found, a year was met that is none. -/
theorem exists_year_of_universalOf {fold : Bool} {shown : Int}
    (h : zone.universalOf fold shown = .error fault) : ∃ year, fault = .year year := by
  unfold universalOf at h
  rcases bind_eq_error.1 h with h | ⟨distance, -, h⟩
  · exact exists_year_of_distanceAt h
  rcases bind_eq_error.1 h with h | ⟨shownFirst, -, h⟩
  · exact exists_year_of_shownAt h
  rcases bind_eq_error.1 h with h | ⟨other, -, h⟩
  · unfold otherDistance at h
    split at h
    · exact exists_year_of_distanceAt h
    · cases h
  · unfold universalAmong at h
    dsimp only at h
    split at h
    · cases h
    · exact exists_year_of_shownAt (map_eq_error.1 h)

/-! ## 3. Moments -/

theorem momentAt_ok_iff {universal : Nat} {m : Moment} : zone.momentAt universal = .ok m ↔
    ¬LeavesCalendar universal (zone.offsetAt universal) ∧
      m.offset = zone.offsetAt universal ∧ m.instant = universal := by
  unfold momentAt LeavesCalendar Moment.instant
  rw [map_eq_ok]
  constructor
  · rintro ⟨reading, hreading, rfl⟩
    rw [addReading_ok_iff] at hreading
    refine ⟨by omega, rfl, ?_⟩
    dsimp only
    omega
  · obtain ⟨reading, offset⟩ := m
    rintro ⟨hstays, hoffset, hinstant⟩
    dsimp only at hoffset hinstant
    refine ⟨reading, addReading_ok_iff.2 ⟨by omega, by omega, by omega⟩, ?_⟩
    rw [hoffset]

theorem momentAt_error_iff {universal : Nat} : zone.momentAt universal = .error fault ↔
    fault = .moment ∧ LeavesCalendar universal (zone.offsetAt universal) := by
  rw [momentAt, map_eq_error, addReading_error_iff]

/-- A reading of the local clock that shows no moment: universal time is then out of the calendar, or
the clock is set to a time that is. -/
def LeavesUniversal (zone : Zone) (reading : Nat) : Prop :=
  ∃ t, zone.universalOf false (reading / second : Nat) = .ok t ∧
    (LeavesCalendar reading (-(zone.aheadAt t * second)) ∨
      ∃ universal : Nat, (universal : Int) = reading - zone.aheadAt t * second ∧
        LeavesCalendar universal (zone.offsetAt universal))

theorem momentOf_error_iff {reading : Nat} :
    zone.momentOf false reading = .error .moment ↔ zone.LeavesUniversal reading := by
  unfold momentOf LeavesUniversal
  constructor
  · intro h
    -- a year that is none is another fault
    rcases bind_eq_error.1 h with h | ⟨t, ht, h⟩
    · obtain ⟨year, hyear⟩ := exists_year_of_universalOf h
      cases hyear
    · refine ⟨t, ht, ?_⟩
      rcases bind_eq_error.1 h with h | ⟨universal, huniversal, h⟩
      · exact .inl (addReading_error_iff.1 h).2
      · exact .inr ⟨universal, (addReading_ok_iff.1 huniversal).2.2, (momentAt_error_iff.1 h).2⟩
  · rintro ⟨t, ht, hleaves⟩
    refine bind_eq_error.2 (.inr ⟨t, ht, ?_⟩)
    by_cases hfirst : LeavesCalendar reading (-(zone.aheadAt t * second))
    · exact bind_eq_error.2 (.inl (addReading_error_iff.2 ⟨rfl, hfirst⟩))
    · obtain ⟨universal, huniversal, hleaves⟩ := hleaves.resolve_left hfirst
      have hok : addReading reading (-(zone.aheadAt t * second)) = .ok universal := by
        rw [addReading_ok_iff]
        unfold LeavesCalendar at hfirst
        omega
      exact bind_eq_error.2 (.inr ⟨universal, hok, momentAt_error_iff.2 ⟨rfl, hleaves⟩⟩)

theorem exists_momentAt_of_momentOf {fold : Bool} {reading : Nat} {m : Moment}
    (h : zone.momentOf fold reading = .ok m) :
    ∃ universal, universal < readingLimit ∧ zone.momentAt universal = .ok m := by
  obtain ⟨t, -, h⟩ := bind_eq_ok.1 h
  obtain ⟨universal, huniversal, h⟩ := bind_eq_ok.1 h
  exact ⟨universal, lt_of_addReading huniversal, h⟩

end Zone

end FileQuery.Calendar
