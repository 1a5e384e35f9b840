import FileQuery.Proofs.Number.Decimal
import Mathlib.Data.List.Basic
import Mathlib.Data.List.TakeWhile

/-!
# White space around a text

Trimming removes what is white space at both ends and nothing else.  There is white space that may not
stand around a number: a text in which that occurs is trimmed in two ways.
-/

namespace FileQuery.Text

/-! ## 1. Trimming -/

theorem dropWhile_of_forall {p : Char → Bool} {s : List Char} (h : ∀ c ∈ s, p c = false) :
    s.dropWhile p = s := by
  cases s with
  | nil => rfl
  | cons c s => rw [List.dropWhile_cons_of_neg (by simp [h c List.mem_cons_self])]

theorem trim_of_forall {s : List Char} (h : ∀ c ∈ s, isBlank c = false) : trim s = s := by
  have hreverse : ∀ c ∈ s.reverse, isBlank c = false := fun c hc => h c (List.mem_reverse.1 hc)
  rw [trim, trimLeft, dropWhile_of_forall h, trimRight, dropWhile_of_forall hreverse,
    List.reverse_reverse]

theorem isBlank_of_toNat {c : Char} (hfirst : 33 ≤ c.toNat) (hlast : c.toNat < 128) :
    isBlank c = false := by
  simp only [isBlank, Bool.or_eq_false_iff, Bool.and_eq_false_imp, decide_eq_true_eq,
    decide_eq_false_iff_not, beq_eq_false_iff_ne]
  omega

theorem isBlank_of_isDigit {c : Char} (h : c.isDigit = true) : isBlank c = false := by
  obtain ⟨hfirst, hlast⟩ := Char.isDigit_iff_toNat.1 h
  have hzero : '0'.toNat = 48 := rfl
  have hnine : '9'.toNat = 57 := rfl
  exact isBlank_of_toNat (by omega) (by omega)

/-- What is dropped at both ends. -/
theorem exists_dropWhile (p : Char → Bool) (s : List Char) :
    ∃ front back, s = front ++ ((s.dropWhile p).reverse.dropWhile p).reverse ++ back ∧
      (∀ c ∈ front, p c = true) ∧ ∀ c ∈ back, p c = true := by
  refine ⟨s.takeWhile p, ((s.dropWhile p).reverse.takeWhile p).reverse, ?_,
    fun c => List.mem_takeWhile_imp, fun c hc => List.mem_takeWhile_imp (List.mem_reverse.1 hc)⟩
  rw [List.append_assoc, ← List.reverse_append, List.takeWhile_append_dropWhile, List.reverse_reverse,
    List.takeWhile_append_dropWhile]

theorem exists_trim (s : List Char) : ∃ front back, s = front ++ trim s ++ back ∧
    (∀ c ∈ front, isBlank c = true) ∧ ∀ c ∈ back, isBlank c = true :=
  exists_dropWhile isBlank s

theorem trimLeft_append {front s : List Char} (hfront : ∀ c ∈ front, isBlank c = true)
    (hfirst : ∀ c, s.head? = some c → isBlank c = false) : trimLeft (front ++ s) = s := by
  rw [trimLeft, List.dropWhile_append_of_pos hfront]
  cases s with
  | nil => rfl
  | cons c s => exact List.dropWhile_cons_of_neg (by simp [hfirst c rfl])

theorem trimRight_append {s back : List Char} (hback : ∀ c ∈ back, isBlank c = true)
    (hlast : ∀ c, s.getLast? = some c → isBlank c = false) : trimRight (s ++ back) = s := by
  have hreverse : trimLeft (back.reverse ++ s.reverse) = s.reverse :=
    trimLeft_append (fun c hc => hback c (List.mem_reverse.1 hc)) (by rwa [List.head?_reverse])
  rw [trimRight, List.reverse_append]
  rw [trimLeft] at hreverse
  rw [hreverse, List.reverse_reverse]

/-- Blanks are removed up to the first and the last character that is none. -/
theorem trim_append {front s back : List Char} (hne : s ≠ [])
    (hfront : ∀ c ∈ front, isBlank c = true) (hback : ∀ c ∈ back, isBlank c = true)
    (hfirst : ∀ c, s.head? = some c → isBlank c = false)
    (hlast : ∀ c, s.getLast? = some c → isBlank c = false) : trim (front ++ s ++ back) = s := by
  rw [trim, List.append_assoc,
    trimLeft_append hfront (by rwa [List.head?_append_of_ne_nil _ hne]),
    trimRight_append hback hlast]

/-! ## 2. Digits are no blanks -/

/-- The blanks and the letters of units that are not in ASCII are no digits. -/
theorem decimalTable_gaps : ∀ n ∈ [133, 160, 304, 305, 383, 5760, 8192, 8193, 8194, 8195, 8196, 8197,
    8198, 8199, 8200, 8201, 8202, 8232, 8233, 8239, 8287, 8490, 12288],
    inTable decimalTable n = false := by
  decide +kernel

theorem isDecimal_of_isBlank {c : Char} (h : isBlank c = true) : isDecimal c = false := by
  by_cases hascii : c.toNat < 128
  · rw [isDecimal, if_pos hascii]
    by_contra hdigit
    rw [isBlank_of_isDigit (Bool.eq_true_of_not_eq_false hdigit)] at h
    cases h
  · rw [isDecimal, if_neg hascii]
    refine decimalTable_gaps c.toNat ?_
    simp only [isBlank, Bool.or_eq_true, Bool.and_eq_true, decide_eq_true_eq, beq_iff_eq] at h
    simp only [List.mem_cons, List.not_mem_nil, or_false]
    omega

/-! ## 3. White space around numbers -/

theorem isBlank_of_isSeparator {c : Char} (h : isSeparator c = true) : isBlank c = true := by
  obtain ⟨hfirst, hlast⟩ := Bool.and_eq_true_iff.1 h
  have hfirst := of_decide_eq_true hfirst
  have hlast := of_decide_eq_true hlast
  simp only [isBlank, Bool.or_eq_true, Bool.and_eq_true, decide_eq_true_eq, beq_iff_eq]
  omega

theorem dropWhile_congr {p q : Char → Bool} {s : List Char} (h : ∀ c ∈ s, p c = q c) :
    s.dropWhile p = s.dropWhile q := by
  induction s with
  | nil => rfl
  | cons c s ih =>
    rw [List.forall_mem_cons] at h
    rw [List.dropWhile_cons, List.dropWhile_cons, h.1, ih h.2]

/-- Without separators, both ways of trimming are one. -/
theorem trimNumber_of_forall {s : List Char} (h : ∀ c ∈ s, isSeparator c = false) :
    trimNumber s = trim s := by
  have hsame : ∀ c ∈ s, isMargin c = isBlank c := fun c hc => by
    rw [isMargin, h c hc, Bool.not_false, Bool.and_true]
  have hfront : s.dropWhile isMargin = trimLeft s := dropWhile_congr hsame
  have hback : (trimLeft s).reverse.dropWhile isMargin = (trimLeft s).reverse.dropWhile isBlank :=
    dropWhile_congr fun c hc => hsame c ((List.dropWhile_sublist _).subset (List.mem_reverse.1 hc))
  rw [trimNumber, hfront, hback]
  rfl

/-- A separator is not trimmed from around a number. -/
theorem isSeparator_mem_trimNumber {s : List Char} {c : Char} (hc : c ∈ s)
    (h : isSeparator c = true) : c ∈ trimNumber s := by
  obtain ⟨front, back, heq, hfront, hback⟩ := exists_dropWhile isMargin s
  have hmargin : isMargin c ≠ true := by rw [isMargin, h, Bool.not_true, Bool.and_false]; decide
  rw [heq, List.mem_append, List.mem_append] at hc
  rcases hc with (hc | hc) | hc
  · exact absurd (hfront c hc) hmargin
  · exact hc
  · exact absurd (hback c hc) hmargin

end FileQuery.Text
