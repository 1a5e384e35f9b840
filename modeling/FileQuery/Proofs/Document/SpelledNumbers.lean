import FileQuery.Document.Scalar
import FileQuery.Proofs.Result
import FileQuery.Proofs.Text.Blank

/-!
# Texts that spell numbers

A text spells a number if it is one without the white space around it.  Read as a number it may have only
some of that white space around it, so there are texts that spell a number and cannot be read as one:
those with a separator at one of their ends.
-/

namespace FileQuery.Document

open Number (readFloat)

variable {s : List Char} {w : Number.WrittenFloat}

theorem isBlank_of_takeSign (h : ∀ c ∈ (Number.takeSign s).2, Text.isBlank c = false) :
    ∀ c ∈ s, Text.isBlank c = false := by
  unfold Number.takeSign at h
  split at h
  · exact List.forall_mem_cons.2 ⟨by decide, h⟩
  · exact List.forall_mem_cons.2 ⟨by decide, h⟩
  · exact h

theorem isBlank_of_digitsValue? {value n : Nat} (h : Number.digitsValue? value s = some n) :
    ∀ c ∈ s, Text.isBlank c = false := fun c hc => by
  have hdecimal := Number.isDecimal_of_digitsValue? h c hc
  by_contra hblank
  rw [Text.isDecimal_of_isBlank (Bool.eq_true_of_not_eq_false hblank)] at hdecimal
  cases hdecimal

theorem isBlank_of_takeWhile {s : List Char} : ∀ c ∈ s.takeWhile Text.isDecimal, Text.isBlank c = false :=
  fun c hc => by
    have hdecimal : Text.isDecimal c = true := List.mem_takeWhile_imp hc
    by_contra hblank
    rw [Text.isDecimal_of_isBlank (Bool.eq_true_of_not_eq_false hblank)] at hdecimal
    cases hdecimal

theorem isBlank_of_readExponent {n : Int} (h : Number.readExponent s = some n) :
    ∀ c ∈ s, Text.isBlank c = false := by
  unfold Number.readExponent at h
  split at h
  · exact List.forall_mem_nil _
  · next e rest =>
    dsimp only at h
    split at h
    · next hmark =>
      split at h
      · cases h
      · obtain ⟨_, hdigits, -⟩ := Option.map_eq_some_iff.1 h
        obtain ⟨value, hvalue, -⟩ := Option.bind_eq_some_iff.1 hdigits
        have hrest := isBlank_of_takeSign (isBlank_of_digitsValue? hvalue)
        refine List.forall_mem_cons.2 ⟨?_, hrest⟩
        rcases Bool.or_eq_true_iff.1 hmark with hmark | hmark <;> rw [eq_of_beq hmark] <;> decide
    · cases h

/-- No part of a number is white space. -/
theorem isBlank_of_readFloat (h : readFloat s = some w) : ∀ c ∈ s, Text.isBlank c = false := by
  unfold readFloat at h
  dsimp only at h
  refine isBlank_of_takeSign ?_
  generalize (Number.takeSign s).2 = s at h ⊢
  rw [← List.takeWhile_append_dropWhile (p := Text.isDecimal) (l := s), List.forall_mem_append]
  refine ⟨isBlank_of_takeWhile, ?_⟩
  generalize s.dropWhile Text.isDecimal = rest at h ⊢
  split at h
  · next behind =>
    rw [Option.ite_none_left_eq_some] at h
    obtain ⟨n, hexponent, -⟩ := Option.map_eq_some_iff.1 h.2
    have hbehind : ∀ c ∈ behind.takeWhile Text.isDecimal ++ behind.dropWhile Text.isDecimal,
        Text.isBlank c = false :=
      List.forall_mem_append.2 ⟨isBlank_of_takeWhile, isBlank_of_readExponent hexponent⟩
    rw [List.takeWhile_append_dropWhile] at hbehind
    exact List.forall_mem_cons.2 ⟨by decide, hbehind⟩
  · rw [Option.ite_none_left_eq_some] at h
    obtain ⟨n, hexponent, -⟩ := Option.map_eq_some_iff.1 h.2
    exact isBlank_of_readExponent hexponent

/-- A text that spells a number with a separator at one of its ends. -/
def IsStray (text : String) : Prop :=
  (readFloat (Text.trim text.toList)).isSome ∧ ∃ c ∈ text.toList, Text.isSeparator c = true

theorem readFloat_trimNumber_eq_none {text : String}
    (h : (readFloat (Text.trim text.toList)).isSome = true) :
    readFloat (Text.trimNumber text.toList) = none ↔
      ∃ c ∈ text.toList, Text.isSeparator c = true := by
  constructor
  · intro hnone
    by_contra! hfree
    rw [Text.trimNumber_of_forall fun c hc => Bool.eq_false_of_not_eq_true (hfree c hc)] at hnone
    rw [hnone] at h
    cases h
  · rintro ⟨c, hc, hseparator⟩
    -- the separator would be a part of the number
    by_contra hsome
    obtain ⟨w, hw⟩ := Option.ne_none_iff_exists'.1 hsome
    have hpart := isBlank_of_readFloat hw c (Text.isSeparator_mem_trimNumber hc hseparator)
    rw [Text.isBlank_of_isSeparator hseparator] at hpart
    cases hpart

/-- Just these texts cannot be read as the numbers that they spell. -/
theorem spelledNumber_eq_error {text : String} {fault : TextFault} :
    Scalar.spelledNumber text = .error fault ↔ IsStray text ∧ fault = .notFloat text := by
  unfold Scalar.spelledNumber IsStray
  cases htrim : readFloat (Text.trim text.toList) with
  | none => simp
  | some w =>
    have hspelled : (readFloat (Text.trim text.toList)).isSome = true := by rw [htrim]; rfl
    rw [← readFloat_trimNumber_eq_none hspelled]
    cases readFloat (Text.trimNumber text.toList) <;> simp [eq_comm]

theorem Scalar.asNumber_eq_error {s : Scalar} {fault : TextFault} :
    s.asNumber = .error fault ↔ ∃ text, s = .str text ∧ IsStray text ∧ fault = .notFloat text := by
  cases s with
  | str text =>
    rw [asNumber, map_eq_error, spelledNumber_eq_error]
    simp
  | _ => simp [asNumber]

end FileQuery.Document
