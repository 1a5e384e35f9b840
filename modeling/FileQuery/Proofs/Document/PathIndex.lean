import FileQuery.Document.Path.Reader
import FileQuery.Proofs.Number.Decimal
import FileQuery.Proofs.Result

/-!
# Indices that are no numbers

More characters are taken for digits of an index than there are decimal digits, and an index can have
more digits than an integer may have.  Then a path is neither read nor refused at a position.
-/

namespace FileQuery.Document

open Number (IntegerFault NoNumber readDigits readDigits_error_iff)

variable {fault : IntegerFault}

/-! ## 1. Brackets -/

def StartsBadIndex (fault : IntegerFault) (s : List Char) : Prop :=
  let digits := s.takeWhile Text.isDigit
  digits ≠ [] ∧ NoNumber (String.ofList digits) digits fault

theorem takeQuoted_ne_index (quote : Char) (start : Nat) (name : List Char) (position : Nat)
    (s : List Char) : takeQuoted quote start name position s ≠ .error (.index fault) := by
  fun_induction takeQuoted quote start name position s <;> simp_all

theorem takeInside_index_iff {start position : Nat} {s : List Char} :
    takeInside start position s = .error (.index fault) ↔ StartsBadIndex fault s := by
  cases s with
  | nil => simp [takeInside, StartsBadIndex]
  | cons c rest =>
    rw [takeInside]
    by_cases hdigit : Text.isDigit c = true
    · -- stars and quotes are no digits
      have hstar : ¬(c == '*') = true := by
        intro h
        rw [beq_iff_eq.1 h] at hdigit
        revert hdigit
        decide
      have hquote : ¬(c == '"' || c == '\'') = true := by
        intro h
        rw [Bool.or_eq_true, beq_iff_eq, beq_iff_eq] at h
        rcases h with rfl | rfl <;> revert hdigit <;> decide
      have hne : (c :: rest).takeWhile Text.isDigit ≠ [] := by
        rw [List.takeWhile_cons_of_pos hdigit]
        simp
      rw [if_neg hstar, if_neg hquote, if_pos hdigit]
      show _ ↔ _ ∧ NoNumber _ _ fault
      rw [← readDigits_error_iff hne]
      dsimp only
      generalize readDigits (String.ofList ((c :: rest).takeWhile Text.isDigit))
        ((c :: rest).takeWhile Text.isDigit) = r
      cases r with
      | ok n => simp
      | error fault' => simp [hne]
    · have hnil : (c :: rest).takeWhile Text.isDigit = [] :=
        List.takeWhile_cons_of_neg hdigit
      have hnot : ¬StartsBadIndex fault (c :: rest) := fun h => h.1 hnil
      refine iff_of_false (fun h => ?_) hnot
      split at h
      · cases h
      · split at h
        · exact takeQuoted_ne_index _ _ _ _ _ (map_eq_error.1 h)
        · cases h

theorem takeBracketed_index_iff {start : Nat} {s : List Char} :
    takeBracketed start s = .error (.index fault) ↔ StartsBadIndex fault s := by
  have hinside : takeInside start (start + 1) s = .error (.index fault) ↔
      StartsBadIndex fault s := takeInside_index_iff
  rw [← hinside, takeBracketed]
  cases takeInside start (start + 1) s with
  | error e => simp
  | ok t =>
    dsimp only
    split <;> simp

/-! ## 2. Steps and paths -/

inductive BadBrackets (fault : IntegerFault) : List Char → Prop
  | plain {inside : List Char} : StartsBadIndex fault inside → BadBrackets fault ('[' :: inside)
  | point {inside : List Char} : StartsBadIndex fault inside →
      BadBrackets fault ('.' :: '[' :: inside)
  | points {inside : List Char} : StartsBadIndex fault inside →
      BadBrackets fault ('.' :: '.' :: '[' :: inside)

theorem takeName_ne_index (position : Nat) (s : List Char) :
    takeName position s ≠ .error (.index fault) := by
  unfold takeName
  dsimp only
  split <;> simp

theorem takeSegment_index_iff {position : Nat} {s : List Char} :
    takeSegment position s = .error (.index fault) ↔ BadBrackets fault s := by
  constructor
  · intro h
    -- only what stands in brackets can be refused as an index
    unfold takeSegment at h
    split at h
    · next rest =>
      cases hinside : takeBracketed (position + 2) rest with
      | error e =>
        rw [hinside] at h
        cases h
        exact .points (takeBracketed_index_iff.1 hinside)
      | ok t =>
        rw [hinside] at h
        split at h
        · next hfault => cases hfault
        · cases h
        · cases h
    · exact absurd (map_eq_error.1 h) (takeName_ne_index _ _)
    · exact .point (takeBracketed_index_iff.1 h)
    · exact absurd (map_eq_error.1 h) (takeName_ne_index _ _)
    · exact .plain (takeBracketed_index_iff.1 h)
    · cases h
    · cases h
  · intro h
    cases h with
    | plain h => exact takeBracketed_index_iff.2 h
    | point h => exact takeBracketed_index_iff.2 h
    | points h =>
      rw [takeSegment, takeBracketed_index_iff.2 h]

/-- A path breaks off: brackets with a bad index follow, at once or after steps that are read. -/
inductive BreaksOff (fault : IntegerFault) : Nat → List Char → Prop
  | here {position : Nat} {s : List Char} : BadBrackets fault s → BreaksOff fault position s
  | later {position : Nat} {s : List Char} {t : Taken Segment} :
      takeSegment position s = .ok t → BreaksOff fault t.position t.rest →
      BreaksOff fault position s

theorem takeSegments_index_iff {position : Nat} {s : List Char} :
    takeSegments position s = .error (.index fault) ↔ BreaksOff fault position s := by
  -- along the steps that are read
  fun_induction takeSegments position s with
  | case1 position =>
    refine iff_of_false nofun fun h => ?_
    cases h with
    | here h => cases h
    | later h => cases h
  | case2 position c rest e h =>
    constructor
    · intro he
      cases he
      exact .here (takeSegment_index_iff.1 h)
    · rintro (hbad | ⟨hok, -⟩)
      · rw [takeSegment_index_iff.2 hbad] at h
        cases h
        rfl
      · rw [h] at hok
        cases hok
  | case3 position c rest t h e hrest ih =>
    rw [hrest] at ih
    constructor
    · intro he
      exact .later h (ih.1 he)
    · rintro (hbad | ⟨hok, hlater⟩)
      · rw [takeSegment_index_iff.2 hbad] at h
        cases h
      · rw [h] at hok
        cases hok
        exact ih.2 hlater
  | case4 position c rest t h path hrest ih =>
    rw [hrest] at ih
    refine iff_of_false nofun ?_
    rintro (hbad | ⟨hok, hlater⟩)
    · rw [takeSegment_index_iff.2 hbad] at h
      cases h
    · rw [h] at hok
      cases hok
      cases ih.2 hlater

/-- A path is neither read nor refused just when it breaks off at a bad index. -/
theorem read_index_iff {text : String} :
    Path.read text = .error (.index fault) ↔
      ∃ rest, text.toList = '.' :: rest ∧ BreaksOff fault 0 ('.' :: rest) := by
  unfold Path.read
  split
  · next hpoint =>
    refine iff_of_false (fun h => by cases h) ?_
    rintro ⟨rest, htext, hbreaks⟩
    rw [hpoint] at htext
    cases htext
    -- a point alone is no step
    have hindex := takeSegments_index_iff.2 hbreaks
    rw [takeSegments] at hindex
    cases hindex
  · next rest _ htext =>
    rw [takeSegments_index_iff]
    constructor
    · intro hbreaks
      exact ⟨rest, htext, hbreaks⟩
    · rintro ⟨rest', htext', hbreaks⟩
      rw [htext] at htext'
      cases htext'
      exact hbreaks
  · next hnot =>
    refine iff_of_false (fun h => by cases h) ?_
    rintro ⟨rest, htext, -⟩
    exact hnot rest htext

end FileQuery.Document
