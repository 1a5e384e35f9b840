import FileQuery.Proofs.Calendar.IsoReading
import FileQuery.Proofs.Calendar.Zone
import FileQuery.Proofs.Query.Literal.Size
import FileQuery.Query.Literal.Time

/-!
# Written times are read back

Whatever a time was read from, its ISO text is read as a moment by any clock: such a text is neither a
keyword nor a distance, and it names its offset.  It is the same moment unless the offset is below a
second, which is lost, or another one in the fold, of which the text says nothing.
-/

namespace FileQuery.Query

open Calendar (Moment PlacedMoment Place Reference Zone)

/-! ## 1. Moments that are read -/

theorem isWritable_moment (place : Place) {reading : Nat} (h : reading < Calendar.readingLimit)
    (fold : Bool) : (place.moment reading fold).IsWritable :=
  ⟨h, place.lt_day reading fold⟩

theorem isWritable_midnight (now : Reference) : now.midnight.IsWritable :=
  isWritable_moment _ (Nat.lt_of_le_of_lt (Nat.div_mul_le_self _ _) now.lt_limit) _

theorem isWritable_of_shifted {now : Reference} {reading : Nat} {distance : Int} {m : PlacedMoment}
    (h : now.shifted reading distance = .ok m) : m.IsWritable := by
  obtain ⟨n, hn, rfl⟩ := map_eq_ok.1 h
  exact isWritable_moment _ (Calendar.lt_of_addReading hn) _

theorem isWritable_of_momentAt {zone : Zone} {universal : Nat} {m : Moment}
    (h : zone.momentAt universal = .ok m) : m.IsWritable := by
  obtain ⟨reading, hreading, rfl⟩ := map_eq_ok.1 h
  exact ⟨Calendar.lt_of_addReading hreading, zone.offsetAt_lt_day _⟩

theorem isWritable_of_readAbsolute {zone : Zone} {text : String} {s : List Char} {m : Moment}
    (h : readAbsolute zone text s = .ok m) : m.IsWritable := by
  unfold readAbsolute at h
  split at h
  · cases h
  · next reading offset hread =>
    cases h
    exact (Calendar.isWritable_of_readDateTime hread).2 offset rfl
  · obtain ⟨universal, -, hmoment⟩ := Zone.exists_momentAt_of_momentOf (mapError_eq_ok.1 h)
    exact isWritable_of_momentAt hmoment

theorem isWritable_of_from {d : WrittenDistance} {now : Reference} {m : PlacedMoment} {seconds : Nat}
    (h : d.from now seconds = .ok m) : m.IsWritable := by
  unfold WrittenDistance.from at h
  dsimp only at h
  split at h
  · cases h
  · split at h
    · cases h
    · exact isWritable_of_shifted (mapError_eq_ok.1 h)

theorem isWritable_of_readMoment {clock : Clock} {text : String} {m : PlacedMoment}
    (h : readMoment clock text = .ok m) : m.IsWritable := by
  unfold readMoment at h
  dsimp only at h
  split at h
  · cases h
    exact isWritable_moment _ clock.now.lt_limit _
  · cases h
    exact isWritable_midnight clock.now
  · exact isWritable_of_shifted (mapError_eq_ok.1 h)
  · split at h
    · exact isWritable_of_from h
    · obtain ⟨moment, hmoment, rfl⟩ := map_eq_ok.1 h
      exact isWritable_of_readAbsolute hmoment

/-! ## 2. Moments that are written -/

theorem toLower_of_isDigit {c : Char} (hc : c.isDigit = true) : c.toLower = c := by
  simp only [Char.isDigit, Bool.and_eq_true, decide_eq_true_eq] at hc
  refine dif_neg fun hupper => ?_
  exact absurd (UInt32.le_trans hupper.1 hc.2) (by decide)

/-- Lower case leaves a digit at the front. -/
theorem lower_of_isDigit {c : Char} (hc : c.isDigit = true) (s : List Char) :
    ∃ t, Text.lower (String.ofList (c :: s)) = String.ofList (c :: t) := by
  have hascii := Text.isAscii_of_isDigit hc
  have hlower : Text.lowerChar c = c := by
    rw [Text.lowerChar]
    simp only [hascii, if_true]
    exact toLower_of_isDigit hc
  -- the two letters whose lower case depends on what stands around them or has two characters
  have hsigma : (c == 'Σ') = false := beq_eq_false_iff_ne.2 (Text.ne_of_isDigit hc rfl)
  have hdotted : (c == 'İ') = false := beq_eq_false_iff_ne.2 (Text.ne_of_isDigit hc rfl)
  refine ⟨Text.lowerFrom [c] s, ?_⟩
  rw [Text.lower, String.toList_ofList, Text.lowerFrom]
  simp [hsigma, hdotted, hlower]

/-- A year and a hyphen begin no distance. -/
theorem readDistance_year {n : Nat} {year : List Char} (h : Calendar.IsNumeral 4 n year)
    (rest : List Char) : readDistance (year ++ '-' :: rest) = none := by
  obtain ⟨c, cs, rfl, hc, -⟩ := h.exists_cons
  have hdecimal : ∀ d ∈ c :: cs, Text.isDecimal d = true :=
    fun d hd => Text.isDecimal_of_isDigit (h.digits d hd)
  -- the digits end at the hyphen, which is neither a unit nor a point
  have htake : (c :: cs ++ '-' :: rest).takeWhile Text.isDecimal = c :: cs := by
    rw [List.takeWhile_append_of_pos hdecimal, List.takeWhile_cons_of_neg (by decide),
      List.append_nil]
  have hdrop : (c :: cs ++ '-' :: rest).dropWhile Text.isDecimal = '-' :: rest := by
    rw [List.dropWhile_append_of_pos hdecimal, List.dropWhile_cons_of_neg (by decide)]
  have hread : readDecimal (c :: cs ++ '-' :: rest) =
      some (⟨Nat.ofDigitChars 10 (c :: cs) 0, 0⟩, '-' :: rest) := by
    simp only [readDecimal, htake, hdrop, Number.digitsValue?_of_isDigit h.digits]
    rfl
  have hminus : c ≠ '-' := Text.ne_of_isDigit hc rfl
  have hplus : c ≠ '+' := Text.ne_of_isDigit hc rfl
  have hpoint : c ≠ '.' := Text.ne_of_isDigit hc rfl
  unfold readDistance
  split
  next back s hsign =>
    split at hsign
    · next hcons => exact absurd (List.cons.inj hcons).1 hminus
    · next hcons => exact absurd (List.cons.inj hcons).1 hplus
    · cases hsign
      rw [if_neg (by simpa using hpoint), hread]
      rfl

theorem isBlank_of_iso {m : Moment} (h : m.IsWritable) :
    ∀ c ∈ m.iso.toList, Text.isBlank c = false := by
  have hsigns : ['-', 'T', ':', '.', '+'].any Text.isBlank = false := by
    decide
  intro c hc
  rcases Calendar.iso_char h hc with hdigit | hsign
  · exact Text.isBlank_of_isDigit hdigit
  · simpa using List.any_eq_false.1 hsigns c hsign

/-- The text of a moment is read as what it tells, by any clock. -/
theorem readMoment_iso {m : Moment} (h : m.IsWritable) (clock : Clock) :
    readMoment clock m.iso = .ok ⟨m.told, false⟩ := by
  obtain ⟨year, rest, hyear, htext⟩ := Calendar.exists_year_iso h
  obtain ⟨c, cs, hcs, hc, -⟩ := hyear.exists_cons
  obtain ⟨t, ht⟩ := lower_of_isDigit hc (cs ++ '-' :: rest)
  have hlower : Text.lower m.iso = String.ofList (c :: t) := by
    rw [← String.ofList_toList (s := m.iso), htext, hcs]
    exact ht
  have habsolute : readAbsolute clock.zone m.iso m.iso.toList = .ok m.told := by
    rw [readAbsolute, Calendar.readDateTime_iso h]
    rfl
  have hdistance : readDistance m.iso.toList = none := by
    rw [htext]
    exact readDistance_year hyear rest
  -- a word for a time does not begin with a digit
  have hkeyword : ∀ word : String, word.toList.head?.any Char.isDigit = false →
      String.ofList (c :: t) ≠ word := by
    rintro word hword rfl
    simp [hc] at hword
  unfold readMoment
  simp only [Text.trim_of_forall (isBlank_of_iso h), String.ofList_toList, hlower, hdistance,
    Option.bind_none]
  split
  · next hnow => exact absurd hnow (hkeyword _ (by decide))
  · next htoday => exact absurd htoday (hkeyword _ (by decide))
  · next hyesterday => exact absurd hyesterday (hkeyword _ (by decide))
  · rw [habsolute]
    rfl

/-! ## 3. Moments that are read back -/

/-- The moment that is read from the text of a moment: a fixed offset is all that is left of the
place. -/
def reread (m : PlacedMoment) : PlacedMoment := ⟨m.told, false⟩

/-- Whether a moment is told by its text: its offset is none or not below a second, and the same in
the fold. -/
structure IsTold (m : PlacedMoment) : Prop where
  offset : m.offset = 0 ∨ Calendar.second ≤ m.offset.natAbs
  fold : m.isFoldable = false

theorem toldOffset_eq_iff {offset : Int} : Calendar.toldOffset offset = offset ↔
    offset = 0 ∨ Calendar.second ≤ offset.natAbs := by
  unfold Calendar.toldOffset
  split <;> omega

theorem reread_eq_iff {m : PlacedMoment} : reread m = m ↔ IsTold m := by
  obtain ⟨⟨reading, offset⟩, isFoldable⟩ := m
  have hequal : reread ⟨⟨reading, offset⟩, isFoldable⟩ = ⟨⟨reading, offset⟩, isFoldable⟩ ↔
      Calendar.toldOffset offset = offset ∧ false = isFoldable := by
    simp [reread, Calendar.Moment.told]
  rw [hequal, toldOffset_eq_iff]
  exact ⟨fun h => ⟨h.1, h.2.symm⟩, fun h => ⟨h.offset, h.fold.symm⟩⟩

end FileQuery.Query
