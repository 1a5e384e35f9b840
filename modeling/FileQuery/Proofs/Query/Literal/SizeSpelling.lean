import FileQuery.Proofs.Query.Literal.Size

/-!
# How byte counts are spelled

A byte count is a decimal number and a unit, with blanks around them and between them.  Digits, blanks
and the letters of units are different characters, so a text spells one number and one unit, and these
are what is read.
-/

namespace FileQuery.Query

/-! ## 1. Digits, blanks and letters -/

theorem toNat_of_isAlpha {c : Char} (h : c.isAlpha = true) : 65 ≤ c.toNat ∧ c.toNat ≤ 122 := by
  rcases Bool.or_eq_true_iff.1 (show (c.isUpper || c.isLower) = true from h) with hupper | hlower
  · have hrange : 65 ≤ c.toNat ∧ c.toNat ≤ 90 := of_decide_eq_true hupper
    omega
  · obtain ⟨hfirst, hlast⟩ := Bool.and_eq_true_iff.1 hlower
    have hrange : 97 ≤ c.toNat ∧ c.toNat ≤ 122 :=
      ⟨of_decide_eq_true hfirst, of_decide_eq_true hlast⟩
    omega

/-- Letters of units are neither digits nor blanks. -/
theorem not_decimal_of_isUnitLetter {c : Char} (h : isUnitLetter c = true) :
    Text.isDecimal c = false ∧ Text.isBlank c = false := by
  by_cases halpha : c.isAlpha = true
  · obtain ⟨hfirst, hlast⟩ := toNat_of_isAlpha halpha
    constructor
    · rw [Text.isDecimal, if_pos (by omega)]
      by_contra hdigit
      have hnine := (Char.isDigit_iff_toNat.1 (Bool.eq_true_of_not_eq_false hdigit)).2
      have hvalue : '9'.toNat = 57 := rfl
      omega
    · exact Text.isBlank_of_toNat (by omega) (by omega)
  · -- besides the letters of ASCII, four others are folded to such letters
    have hwide : c = 'ı' ∨ c = 'İ' ∨ c = 'ſ' ∨ c = '\u212a' := by
      simpa [isUnitLetter, halpha, or_assoc] using h
    have hcode : c.toNat ∈ [305, 304, 383, 8490] ∧ Text.isBlank c = false := by
      rcases hwide with rfl | rfl | rfl | rfl <;> decide
    refine ⟨?_, hcode.2⟩
    have hmem := hcode.1
    simp only [List.mem_cons, List.not_mem_nil, or_false] at hmem
    rw [Text.isDecimal, if_neg (by omega)]
    refine Text.decimalTable_gaps c.toNat ?_
    simp only [List.mem_cons, List.not_mem_nil, or_false]
    omega

/-- No number goes on with a blank or with a letter of a unit. -/
theorem ends_number {c : Char} (h : Text.isBlank c = true ∨ isUnitLetter c = true) :
    Text.isDecimal c = false ∧ c ≠ '.' := by
  refine ⟨h.elim Text.isDecimal_of_isBlank fun h => (not_decimal_of_isUnitLetter h).1, ?_⟩
  rintro rfl
  revert h
  decide

/-! ## 2. Numbers -/

def pointed (fraction : List Char) : List Char :=
  if fraction.isEmpty then [] else '.' :: fraction

section number

variable {whole fraction rest : List Char}

/-- What a number is read from. -/
theorem exists_of_readDecimal {s : List Char} {d : WrittenDecimal}
    (h : readDecimal s = some (d, rest)) : ∃ whole fraction,
      s = whole ++ pointed fraction ++ rest ∧ whole ++ fraction ≠ [] ∧
      Number.digitsValue? 0 (whole ++ fraction) = some d.digits ∧ d.places = fraction.length := by
  have hsplit : s.takeWhile Text.isDecimal ++ s.dropWhile Text.isDecimal = s :=
    List.takeWhile_append_dropWhile
  -- without a point, and with one that no digit follows, only the digits before it are read
  have hplain : (if (s.takeWhile Text.isDecimal).isEmpty then none
      else (Number.digitsValue? 0 (s.takeWhile Text.isDecimal)).map fun n =>
        ((⟨n, 0⟩ : WrittenDecimal), s.dropWhile Text.isDecimal)) = some (d, rest) →
      ∃ whole fraction, s = whole ++ pointed fraction ++ rest ∧ whole ++ fraction ≠ [] ∧
        Number.digitsValue? 0 (whole ++ fraction) = some d.digits ∧ d.places = fraction.length := by
    intro h
    split at h
    · cases h
    · next hwhole =>
      obtain ⟨n, hvalue, heq⟩ := Option.map_eq_some_iff.1 h
      cases heq
      refine ⟨s.takeWhile Text.isDecimal, [], ?_, ?_, ?_, rfl⟩
      · rw [pointed, List.isEmpty_nil, if_pos rfl, List.append_nil, hsplit]
      · simpa using hwhole
      · rw [List.append_nil, hvalue]
  unfold readDecimal at h
  dsimp only at h
  split at h
  · next behind hbehind =>
    split at h
    · exact hplain h
    · next hfraction =>
      obtain ⟨n, hvalue, heq⟩ := Option.map_eq_some_iff.1 h
      cases heq
      refine ⟨s.takeWhile Text.isDecimal, behind.takeWhile Text.isDecimal, ?_, ?_, hvalue, rfl⟩
      · have hdrop : behind.drop (behind.takeWhile Text.isDecimal).length =
            behind.dropWhile Text.isDecimal := by
          obtain ⟨front, back, hfront, hback, hbehind⟩ : ∃ front back,
              behind.takeWhile Text.isDecimal = front ∧ behind.dropWhile Text.isDecimal = back ∧
                front ++ back = behind := ⟨_, _, rfl, rfl, List.takeWhile_append_dropWhile⟩
          rw [hfront, hback, ← hbehind, List.drop_left]
        rw [pointed, if_neg hfraction, hbehind, List.drop_succ_cons, hdrop, List.append_assoc,
          List.cons_append, List.takeWhile_append_dropWhile, ← hbehind, hsplit]
      · exact fun hnil => hfraction (List.isEmpty_iff.2 (List.append_eq_nil_iff.1 hnil).2)
  · exact hplain h

/-- A number is read up to a character that is neither a digit nor a point. -/
theorem readDecimal_pointed {digits : Nat} (hne : whole ++ fraction ≠ [])
    (hvalue : Number.digitsValue? 0 (whole ++ fraction) = some digits)
    (hrest : ∀ c, rest.head? = some c → Text.isDecimal c = false ∧ c ≠ '.') :
    readDecimal (whole ++ pointed fraction ++ rest) = some (⟨digits, fraction.length⟩, rest) := by
  have hdecimal := Number.isDecimal_of_digitsValue? hvalue
  have hwhole : ∀ c ∈ whole, Text.isDecimal c = true := fun c hc =>
    hdecimal c (List.mem_append_left _ hc)
  have hfraction : ∀ c ∈ fraction, Text.isDecimal c = true := fun c hc =>
    hdecimal c (List.mem_append_right _ hc)
  have hstop : rest.takeWhile Text.isDecimal = [] ∧ rest.dropWhile Text.isDecimal = rest := by
    cases rest with
    | nil => exact ⟨rfl, rfl⟩
    | cons c rest =>
      have hc := (hrest c rfl).1
      exact ⟨List.takeWhile_cons_of_neg (by simp [hc]), List.dropWhile_cons_of_neg (by simp [hc])⟩
  unfold readDecimal
  rw [List.append_assoc, List.takeWhile_append_of_pos hwhole, List.dropWhile_append_of_pos hwhole]
  cases fraction with
  | nil =>
    rw [List.append_nil] at hne hvalue
    -- what follows the digits is not taken for a fraction
    have hnoPoint : ∀ behind, rest ≠ '.' :: behind := by
      rintro behind rfl
      exact (hrest '.' rfl).2 rfl
    simp only [pointed, List.isEmpty_nil, if_true, List.nil_append, hstop, List.append_nil,
      List.isEmpty_iff, hne, if_false, hvalue, Option.map_some]
    rfl
  | cons c fraction =>
    have hpoint : Text.isDecimal '.' = false := by decide
    have hbehind : (c :: (fraction ++ rest)).takeWhile Text.isDecimal = c :: fraction := by
      rw [← List.cons_append, List.takeWhile_append_of_pos hfraction, hstop.1, List.append_nil]
    simp only [pointed, List.isEmpty_cons, Bool.false_eq_true, if_false, List.cons_append,
      List.takeWhile_cons_of_neg, List.dropWhile_cons_of_neg, hpoint, not_false_eq_true,
      List.append_nil, hbehind, hvalue, Option.map_some, List.drop_succ_cons]
    rw [← List.cons_append, List.drop_left]

theorem isBlank_of_mem_number {digits : Nat}
    (hvalue : Number.digitsValue? 0 (whole ++ fraction) = some digits) :
    ∀ c ∈ whole ++ pointed fraction, Text.isBlank c = false := by
  have hdigit : ∀ c ∈ whole ++ fraction, Text.isBlank c = false := by
    intro c hc
    have hdecimal := Number.isDecimal_of_digitsValue? hvalue c hc
    by_contra hblank
    rw [Text.isDecimal_of_isBlank (Bool.eq_true_of_not_eq_false hblank)] at hdecimal
    cases hdecimal
  rw [List.forall_mem_append] at hdigit ⊢
  refine ⟨hdigit.1, ?_⟩
  unfold pointed
  split
  · exact nofun
  · exact List.forall_mem_cons.2 ⟨by decide, hdigit.2⟩

theorem number_ne_nil (hne : whole ++ fraction ≠ []) : whole ++ pointed fraction ≠ [] := by
  intro hnil
  obtain ⟨rfl, hpointed⟩ := List.append_eq_nil_iff.1 hnil
  unfold pointed at hpointed
  split at hpointed
  · next hempty => exact hne (List.isEmpty_iff.1 hempty)
  · cases hpointed

/-- What is left of a number and a unit without the blanks around them; where there is no unit, the
blanks before it are at the end. -/
theorem exists_trim_number {digits : Nat} {front between unit back : List Char}
    (hfront : ∀ c ∈ front, Text.isBlank c = true) (hbetween : ∀ c ∈ between, Text.isBlank c = true)
    (hback : ∀ c ∈ back, Text.isBlank c = true) (hunit : ∀ c ∈ unit, Text.isBlank c = false)
    (hne : whole ++ fraction ≠ [])
    (hvalue : Number.digitsValue? 0 (whole ++ fraction) = some digits) :
    ∃ blanks, (∀ c ∈ blanks, Text.isBlank c = true) ∧
      Text.trim (front ++ (whole ++ pointed fraction ++ between ++ unit) ++ back) =
        whole ++ pointed fraction ++ (blanks ++ unit) := by
  have hnumber := isBlank_of_mem_number hvalue
  have hnumberNe := number_ne_nil hne
  generalize whole ++ pointed fraction = number at hnumber hnumberNe ⊢
  have hfirst : ∀ behind c, (number ++ behind).head? = some c → Text.isBlank c = false := by
    intro behind c hc
    rw [List.head?_append_of_ne_nil _ hnumberNe] at hc
    exact hnumber c (List.mem_of_mem_head? hc)
  -- without a unit the blanks between are trimmed with those behind
  by_cases hnone : unit = []
  · subst hnone
    refine ⟨[], nofun, ?_⟩
    have htrim : Text.trim (front ++ number ++ (between ++ back)) = number :=
      Text.trim_append hnumberNe hfront (List.forall_mem_append.2 ⟨hbetween, hback⟩)
        (fun c hc => hnumber c (List.mem_of_mem_head? hc))
        fun c hc => hnumber c (List.mem_of_getLast? hc)
    simpa using htrim
  · refine ⟨between, hbetween, ?_⟩
    have hlast : ∀ c, (number ++ (between ++ unit)).getLast? = some c → Text.isBlank c = false := by
      intro c hc
      rw [← List.append_assoc, List.getLast?_append_of_ne_nil _ hnone] at hc
      exact hunit c (List.mem_of_getLast? hc)
    rw [List.append_assoc number]
    exact Text.trim_append (by simp [hnone]) hfront hback (hfirst _) hlast

end number

/-! ## 3. Byte counts -/

/-- A text that spells a number of units: a decimal number and a unit, with blanks around them and
between them. -/
inductive SpellsSize : String → WrittenDecimal → Nat → Prop
  | intro {front whole fraction between unit back : List Char} {digits factor : Nat} :
    (∀ c ∈ front, Text.isBlank c = true) → (∀ c ∈ between, Text.isBlank c = true) →
    (∀ c ∈ back, Text.isBlank c = true) → whole ++ fraction ≠ [] →
    Number.digitsValue? 0 (whole ++ fraction) = some digits →
    (∀ c ∈ unit, isUnitLetter c = true) →
    sizeUnits.lookup (Text.lower (String.ofList unit)) = some factor →
    SpellsSize (String.ofList (front ++ (whole ++ pointed fraction ++ between ++ unit) ++ back))
      ⟨digits, fraction.length⟩ factor

/-- What a text spells is what is read from it. -/
theorem spellsSize_iff {text : String} {d : WrittenDecimal} {factor : Nat} :
    SpellsSize text d factor ↔ ∃ rest, readDecimal (Text.trim text.toList) = some (d, rest) ∧
      (∀ c ∈ Text.trimLeft rest, isUnitLetter c = true) ∧
      sizeUnits.lookup (Text.lower (String.ofList (Text.trimLeft rest))) = some factor := by
  constructor
  · rintro ⟨hfront, hbetween, hback, hne, hvalue, hunit, hfactor⟩
    have hunitBlank := fun c hc => (not_decimal_of_isUnitLetter (hunit c hc)).2
    obtain ⟨blanks, hblanks, htrim⟩ :=
      exists_trim_number hfront hbetween hback hunitBlank hne hvalue
    rw [String.toList_ofList, htrim]
    refine ⟨_, readDecimal_pointed hne hvalue fun c hc => ends_number ?_, ?_⟩
    · exact (List.mem_append.1 (List.mem_of_mem_head? hc)).imp (hblanks c) (hunit c)
    · rw [Text.trimLeft_append hblanks fun c hc => hunitBlank c (List.mem_of_mem_head? hc)]
      exact ⟨hunit, hfactor⟩
  · rintro ⟨rest, hread, hunit, hfactor⟩
    obtain ⟨whole, fraction, hnumber, hne, hvalue, hplaces⟩ := exists_of_readDecimal hread
    obtain ⟨front, back, htext, hfront, hback⟩ := Text.exists_trim text.toList
    have hrest : rest.takeWhile Text.isBlank ++ Text.trimLeft rest = rest :=
      List.takeWhile_append_dropWhile
    -- the blanks before the unit are those that the reader passes over
    have hbetween : ∀ c ∈ rest.takeWhile Text.isBlank, Text.isBlank c = true :=
      fun c => List.mem_takeWhile_imp
    have hspells := SpellsSize.intro hfront hbetween hback hne hvalue hunit hfactor
    rw [List.append_assoc _ (rest.takeWhile Text.isBlank), hrest, ← hnumber, ← htext,
      String.ofList_toList, ← hplaces] at hspells
    exact hspells

theorem readSize_of_spellsSize {text : String} {d : WrittenDecimal} {factor : Nat}
    (h : SpellsSize text d factor) : readSize text = sizeProduct d factor := by
  obtain ⟨rest, hread, hunit, hfactor⟩ := spellsSize_iff.1 h
  rw [readSize, hread]
  dsimp only
  rw [if_pos (List.all_eq_true.2 hunit), hfactor]

/-- Just the texts that spell a byte count are read, if its product is not too large. -/
theorem exists_spellsSize {text : String} {n : Nat} (h : readSize text = .ok n) :
    ∃ d factor, SpellsSize text d factor := by
  unfold readSize at h
  split at h
  · cases h
  · next number rest hread =>
    dsimp only at h
    split at h
    · next hunit =>
      split at h
      · cases h
      · next factor hfactor =>
        exact ⟨number, factor, spellsSize_iff.2 ⟨rest, hread, List.all_eq_true.1 hunit, hfactor⟩⟩
    · cases h

end FileQuery.Query
