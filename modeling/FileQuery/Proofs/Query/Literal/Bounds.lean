import FileQuery.Proofs.Calendar.Zone
import FileQuery.Proofs.Query.Literal.Size
import FileQuery.Query.Literal.Time

/-!
# Sizes and times out of bounds

A size can be too large to be multiplied out, and a time can lead out of the calendar.  Every other
fault of a literal is told to the author of the query.
-/

namespace FileQuery.Query

open Calendar (LeavesCalendar RangeFault Reference Zone addReading_error_iff)

/-! ## 1. Sizes -/

/-- A number of bytes that cannot be multiplied out: its product has more than a million digits before
the point. -/
def IsHuge (text : String) : Prop :=
  ∃ number rest factor, readDecimal (Text.trim text.toList) = some (number, rest) ∧
    (Text.trimLeft rest).all isUnitLetter = true ∧
    sizeUnits.lookup (Text.lower (String.ofList (Text.trimLeft rest))) = some factor ∧
    10 ^ (productLimit + 1 + number.places) ≤ roundToDigits productDigits (number.digits * factor)

theorem sizeProduct_error_iff {d : WrittenDecimal} {factor : Nat} {fault : LiteralFault} :
    sizeProduct d factor = .error fault ↔ fault = .sizeTooLarge ∧
      10 ^ (productLimit + 1 + d.places) ≤ roundToDigits productDigits (d.digits * factor) := by
  -- a number has more digits than this just if it is as large as the power of ten
  have hcount : productLimit + 1 + d.places <
        digitCount (roundToDigits productDigits (d.digits * factor)) ↔
      10 ^ (productLimit + 1 + d.places) ≤ roundToDigits productDigits (d.digits * factor) := by
    have hle : digitCount (roundToDigits productDigits (d.digits * factor)) ≤
          productLimit + 1 + d.places ↔ _ := digitCount_le_iff (by omega)
    omega
  rw [← hcount, sizeProduct]
  by_cases hlong : productLimit + 1 + d.places <
      digitCount (roundToDigits productDigits (d.digits * factor))
  · rw [if_pos hlong]
    constructor
    · intro h
      cases h
      exact ⟨rfl, hlong⟩
    · rintro ⟨rfl, -⟩
      rfl
  · rw [if_neg hlong]
    exact iff_of_false (fun h => by cases h) fun h => hlong h.2

/-- Sizes that are not told to be invalid are huge. -/
theorem readSize_error_iff {text : String} {fault : LiteralFault} :
    readSize text = .error fault ∧ fault.isInvalidValue = false ↔
      fault = .sizeTooLarge ∧ IsHuge text := by
  constructor
  · rintro ⟨h, hbreaks⟩
    -- no number, no unit, or a unit that is not known: all of that is told to be invalid
    unfold readSize at h
    split at h
    · cases h
      cases hbreaks
    · next number rest hread =>
      dsimp only at h
      split at h
      · next hletters =>
        split at h
        · cases h
          cases hbreaks
        · next factor hunit =>
          obtain ⟨hfault, hhuge⟩ := sizeProduct_error_iff.1 h
          exact ⟨hfault, number, rest, factor, hread, hletters, hunit, hhuge⟩
      · cases h
        cases hbreaks
  · rintro ⟨rfl, number, rest, factor, hread, hletters, hunit, hhuge⟩
    refine ⟨?_, rfl⟩
    rw [readSize, hread]
    dsimp only
    rw [if_pos hletters, hunit]
    exact sizeProduct_error_iff.2 ⟨rfl, hhuge⟩

/-- Counts that are no counts are told to be invalid. -/
theorem isInvalidValue_of_readCount {text : String} {fault : LiteralFault}
    (h : readCount text = .error fault) : fault.isInvalidValue = true := by
  unfold readCount at h
  dsimp only at h
  split at h
  · cases h
    rfl
  · obtain ⟨integerFault, -, rfl⟩ := mapError_eq_error.1 h
    rfl

/-! ## 2. Times -/

theorem shifted_error_iff {now : Reference} {reading : Nat} {distance : Int} {fault : RangeFault} :
    now.shifted reading distance = .error fault ↔
      fault = .moment ∧ LeavesCalendar reading distance := by
  rw [Reference.shifted, map_eq_error, addReading_error_iff]

/-- A distance from now that has no end: it is longer than distances may be, or leads out of the
calendar. -/
def WrittenDistance.IsEndless (d : WrittenDistance) (now : Reference) (seconds : Nat) : Prop :=
  ∀ micros, microsOf ((Number.Binary64.ofDecimal false d.amount.digits
      (-(d.amount.places : Int))).mulNat seconds) = some micros →
    (distanceLimit + 1) * Calendar.day ≤ micros ∨
      LeavesCalendar now.reading (if d.back then -(micros : Int) else micros)

theorem from_error_iff {d : WrittenDistance} {now : Reference} {seconds : Nat}
    {fault : LiteralFault} : d.from now seconds = .error fault ↔
      fault = .range .moment ∧ d.IsEndless now seconds := by
  unfold WrittenDistance.from WrittenDistance.IsEndless
  dsimp only
  -- a distance that is no number of microseconds, one that is too long, or one that leads too far
  cases microsOf ((Number.Binary64.ofDecimal false d.amount.digits
      (-(d.amount.places : Int))).mulNat seconds) with
  | none =>
    constructor
    · intro h
      cases h
      exact ⟨rfl, nofun⟩
    · rintro ⟨rfl, -⟩
      rfl
  | some micros =>
    dsimp only
    by_cases hlong : (distanceLimit + 1) * Calendar.day ≤ micros
    · rw [if_pos hlong]
      constructor
      · intro h
        cases h
        refine ⟨rfl, ?_⟩
        rintro _ ⟨⟩
        exact .inl hlong
      · rintro ⟨rfl, -⟩
        rfl
    · rw [if_neg hlong, mapError_eq_error]
      constructor
      · rintro ⟨_, h, rfl⟩
        obtain ⟨rfl, hrange⟩ := shifted_error_iff.1 h
        refine ⟨rfl, ?_⟩
        rintro _ ⟨⟩
        exact .inr hrange
      · rintro ⟨rfl, h⟩
        exact ⟨.moment, shifted_error_iff.2 ⟨rfl, (h micros rfl).resolve_left hlong⟩, rfl⟩

def isTimeKeyword (text : String) : Bool :=
  ["now", "today", "yesterday"].contains (Text.lower (String.ofList (Text.trim text.toList)))

def distance? (text : String) : Option (WrittenDistance × Nat) :=
  (readDistance (Text.trim text.toList)).bind fun d =>
    (timeUnit? (Text.lower d.unit)).map (d, ·)

/-- A time that lies out of the calendar: the day before the first one, a distance that leads out of it,
or a time of the local zone that universal time does not reach. -/
inductive IsTooFar (clock : Clock) (text : String) : Prop
  | yesterday : Text.lower (String.ofList (Text.trim text.toList)) = "yesterday" →
      LeavesCalendar clock.now.midnight.reading (-(Calendar.day : Int)) → IsTooFar clock text
  | distance {d : WrittenDistance} {seconds : Nat} : isTimeKeyword text = false →
      distance? text = some (d, seconds) → d.IsEndless clock.now seconds → IsTooFar clock text
  | absolute {reading : Nat} : isTimeKeyword text = false → distance? text = none →
      Calendar.readDateTime (Text.trim text.toList) = some ⟨reading, none⟩ →
      clock.zone.LeavesUniversal reading → IsTooFar clock text

theorem readAbsolute_error_iff {zone : Zone} {text : String} {s : List Char} {fault : LiteralFault} :
    readAbsolute zone text s = .error fault ∧ fault.isInvalidValue = false ↔
      fault = .range .moment ∧ ∃ reading, Calendar.readDateTime s = some ⟨reading, none⟩ ∧
        zone.LeavesUniversal reading := by
  unfold readAbsolute
  -- no moment, one that names its offset, or one by the local clock
  split
  · next hread =>
    constructor
    · rintro ⟨h, hbreaks⟩
      cases h
      cases hbreaks
    · rintro ⟨-, reading, hread', -⟩
      rw [hread] at hread'
      cases hread'
  · next reading offset hread =>
    constructor
    · rintro ⟨h, -⟩
      cases h
    · rintro ⟨-, reading', hread', -⟩
      rw [hread] at hread'
      cases hread'
  · next reading hread =>
    rw [mapError_eq_error]
    constructor
    · rintro ⟨⟨rangeFault, h, rfl⟩, hbreaks⟩
      cases rangeFault with
      | moment => exact ⟨rfl, reading, hread, Zone.momentOf_error_iff.1 h⟩
      | year n => cases hbreaks
    · rintro ⟨rfl, reading', hread', hleaves⟩
      rw [hread] at hread'
      cases hread'
      exact ⟨⟨.moment, Zone.momentOf_error_iff.2 hleaves, rfl⟩, rfl⟩

theorem readMoment_of_not_keyword {clock : Clock} {text : String}
    (h : isTimeKeyword text = false) : readMoment clock text =
      match distance? text with
      | some (d, seconds) => d.from clock.now seconds
      | none => (readAbsolute clock.zone text (Text.trim text.toList)).map (⟨·, false⟩) := by
  unfold isTimeKeyword at h
  unfold readMoment
  dsimp only
  split
  · next hnow => rw [hnow] at h; cases h
  · next htoday => rw [htoday] at h; cases h
  · next hyesterday => rw [hyesterday] at h; cases h
  · rfl

section cases

variable {clock : Clock} {text : String}

theorem ne_yesterday (h : isTimeKeyword text = false) :
    Text.lower (String.ofList (Text.trim text.toList)) ≠ "yesterday" := by
  intro hyesterday
  rw [isTimeKeyword, hyesterday] at h
  cases h

theorem isTooFar_keyword (h : isTimeKeyword text = true) :
    IsTooFar clock text ↔ Text.lower (String.ofList (Text.trim text.toList)) = "yesterday" ∧
      LeavesCalendar clock.now.midnight.reading (-(Calendar.day : Int)) := by
  constructor
  · intro hfar
    cases hfar with
    | yesterday hyesterday hleaves => exact ⟨hyesterday, hleaves⟩
    | distance hnot | absolute hnot =>
      rw [h] at hnot
      cases hnot
  · rintro ⟨hyesterday, hleaves⟩
    exact .yesterday hyesterday hleaves

theorem isTooFar_distance {d : WrittenDistance} {seconds : Nat} (h : isTimeKeyword text = false)
    (hdistance : distance? text = some (d, seconds)) :
    IsTooFar clock text ↔ d.IsEndless clock.now seconds := by
  constructor
  · intro hfar
    cases hfar with
    | yesterday hyesterday => exact absurd hyesterday (ne_yesterday h)
    | distance _ hsame hendless =>
      rw [hdistance] at hsame
      cases hsame
      exact hendless
    | absolute _ hnone =>
      rw [hdistance] at hnone
      cases hnone
  · exact .distance h hdistance

theorem isTooFar_absolute (h : isTimeKeyword text = false) (hdistance : distance? text = none) :
    IsTooFar clock text ↔ ∃ reading,
      Calendar.readDateTime (Text.trim text.toList) = some ⟨reading, none⟩ ∧
        clock.zone.LeavesUniversal reading := by
  constructor
  · intro hfar
    cases hfar with
    | yesterday hyesterday => exact absurd hyesterday (ne_yesterday h)
    | distance _ hsome =>
      rw [hdistance] at hsome
      cases hsome
    | absolute _ _ hread hleaves => exact ⟨_, hread, hleaves⟩
  · rintro ⟨reading, hread, hleaves⟩
    exact .absolute h hdistance hread hleaves

theorem readMoment_of_keyword (h : isTimeKeyword text = true) {fault : LiteralFault} :
    readMoment clock text = .error fault ↔ fault = .range .moment ∧
      Text.lower (String.ofList (Text.trim text.toList)) = "yesterday" ∧
      LeavesCalendar clock.now.midnight.reading (-(Calendar.day : Int)) := by
  rw [isTimeKeyword, List.contains_iff_mem] at h
  simp only [List.mem_cons, List.not_mem_nil, or_false] at h
  unfold readMoment
  dsimp only
  -- only yesterday can be before the calendar
  rcases h with hnow | htoday | hyesterday
  · rw [hnow]
    exact iff_of_false nofun fun h => absurd h.2.1 (by decide)
  · rw [htoday]
    exact iff_of_false nofun fun h => absurd h.2.1 (by decide)
  · rw [hyesterday]
    show (clock.now.shifted clock.now.midnight.reading (-(Calendar.day : Int))).mapError
      LiteralFault.range = _ ↔ _
    rw [mapError_eq_error]
    constructor
    · rintro ⟨_, h, rfl⟩
      obtain ⟨rfl, hleaves⟩ := shifted_error_iff.1 h
      exact ⟨rfl, rfl, hleaves⟩
    · rintro ⟨rfl, -, hleaves⟩
      exact ⟨.moment, shifted_error_iff.2 ⟨rfl, hleaves⟩, rfl⟩

/-- Times that are not told to be invalid lie out of the calendar. -/
theorem readMoment_error_iff {fault : LiteralFault} :
    readMoment clock text = .error fault ∧ fault.isInvalidValue = false ↔
      fault = .range .moment ∧ IsTooFar clock text := by
  by_cases hkeyword : isTimeKeyword text = true
  · rw [readMoment_of_keyword hkeyword, isTooFar_keyword hkeyword, and_iff_left_of_imp]
    rintro ⟨rfl, -⟩
    rfl
  · rw [Bool.not_eq_true] at hkeyword
    rw [readMoment_of_not_keyword hkeyword]
    cases hdistance : distance? text with
    | some pair =>
      obtain ⟨d, seconds⟩ := pair
      rw [isTooFar_distance hkeyword hdistance]
      show d.from clock.now seconds = _ ∧ _ ↔ _
      rw [from_error_iff, and_iff_left_of_imp]
      rintro ⟨rfl, -⟩
      rfl
    | none =>
      rw [isTooFar_absolute hkeyword hdistance]
      show (readAbsolute clock.zone text _).map _ = _ ∧ _ ↔ _
      rw [map_eq_error]
      exact readAbsolute_error_iff

end cases

end FileQuery.Query
