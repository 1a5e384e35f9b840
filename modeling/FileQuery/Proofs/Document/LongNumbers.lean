import FileQuery.Document.Json
import FileQuery.Document.Toml
import FileQuery.Proofs.Document.BreakingOff
import FileQuery.Proofs.Number.Decimal

/-!
# JSON and TOML break off at long integers only

The values of JSON and of TOML are what they are spelled like, so they cannot be marked as something
else.  Only an integer with more digits than integers may have breaks their readers off.
-/

namespace FileQuery.Document

/-! ## 1. Integers -/

def BadValue.IsTooLong (v : BadValue) : Prop :=
  ∃ digits, Number.digitLimit < digits ∧ v = .integer (.tooLong digits)

theorem isTooLong_of_readDigits {shown : String} {digits : List Char} {fault : Number.IntegerFault}
    (hne : digits ≠ []) (hdigits : ∀ c ∈ digits, isDigit c = true)
    (h : Number.readDigits shown digits = .error fault) : (BadValue.integer fault).IsTooLong := by
  obtain ⟨hlong, rfl⟩ := Number.tooLong_of_readDigits hne hdigits h
  exact ⟨_, hlong, rfl⟩

theorem isTooLong_of_readInteger {shown : String} {sign digits : List Char}
    {fault : Number.IntegerFault} (hsign : sign = [] ∨ sign = ['-'] ∨ sign = ['+'])
    (hne : digits ≠ []) (hdigits : ∀ c ∈ digits, isDigit c = true)
    (h : Number.readInteger shown (sign ++ digits) = .error fault) :
    (BadValue.integer fault).IsTooLong := by
  rcases hsign with rfl | rfl | rfl
  · unfold Number.readInteger at h
    split at h
    -- a digit is no sign
    · next heq => exact absurd (hdigits '-' (by rw [← List.nil_append digits, heq]; simp)) (by decide)
    · next heq => exact absurd (hdigits '+' (by rw [← List.nil_append digits, heq]; simp)) (by decide)
    · exact isTooLong_of_readDigits hne hdigits (map_eq_error.1 h)
  · rw [List.singleton_append, Number.readInteger] at h
    rcases bind_eq_error.1 (map_eq_error.1 h) with h | ⟨_, -, h⟩
    · exact isTooLong_of_readDigits hne hdigits h
    · cases h
  · rw [List.singleton_append, Number.readInteger] at h
    exact isTooLong_of_readDigits hne hdigits (map_eq_error.1 h)

end FileQuery.Document

namespace FileQuery.Document.Json

variable {P : BadValue → Prop}

/-! ## 2. JSON -/

theorem breaksAt_readEscape (s : List Char) : BreaksAt P (readEscape s) := by
  unfold readEscape
  split
  · exact .malformed
  · split
    · exact .ok _
    · exact .malformed
  · split
    · exact .ok _
    · exact .malformed

theorem breaksAt_readString (done : List Char) (size : Nat) (s : List Char) :
    BreaksAt P (readString done size s) := by
  fun_induction readString done size s with
  | case3 => exact .ok _
  | case5 _ _ _ rest _ _ e he => exact (breaksAt_readEscape rest).passed he
  | case4 _ _ _ _ _ _ _ _ _ ih | case7 _ _ _ _ _ _ _ ih => exact ih
  | _ => exact .malformed

theorem isDigit_of_wholeDigits {s : List Char} {c : Char} (h : c ∈ wholeDigits s) :
    isDigit c = true := by
  unfold wholeDigits at h
  split at h
  · rw [List.mem_singleton.1 h]
    rfl
  · exact List.all_eq_true.1 List.all_takeWhile c h

theorem breaksAt_readNumber (s : List Char) : BreaksAt BadValue.IsTooLong (readNumber s) := by
  unfold readNumber
  dsimp only
  generalize hsign : (s.take 1).filter (· == '-') = sign
  generalize hwhole : wholeDigits (s.drop sign.length) = whole
  split
  · exact .malformed
  · next hne =>
    split
    · -- without a fraction and an exponent it is an integer
      next hpart =>
      rw [Bool.and_eq_true, List.isEmpty_iff, List.isEmpty_iff] at hpart
      rw [hpart.2, hpart.1, List.append_nil, List.append_nil]
      split
      · exact .ok _
      · next fault hfault =>
        refine .badValue (isTooLong_of_readInteger ?_ (by simpa using hne) ?_ hfault)
        · rw [← hsign]
          cases s with
          | nil => exact .inl rfl
          | cons c s =>
            by_cases hminus : c == '-'
            · exact .inr (.inl (by simp_all))
            · exact .inl (by simp_all)
        · rw [← hwhole]
          exact fun c hc => isDigit_of_wholeDigits hc
    · split
      · exact .ok _
      · exact .malformed

theorem breaksAt_readScalar (size : Nat) (s : List Char) :
    BreaksAt BadValue.IsTooLong (readScalar size s) := by
  unfold readScalar
  split
  · exact (breaksAt_readString [] size _).map _
  · split
    · exact .ok _
    · exact breaksAt_readNumber s

theorem breaksAt_readItems {read : Reader Tree} (h : ∀ s, BreaksAt P (read s)) (done : List Tree)
    (size : Nat) (s : List Char) : BreaksAt P (readItems read done size s) := by
  fun_induction readItems read done size s with
  | case1 | case5 => exact .malformed
  | case2 _ _ s e he => exact (h s).passed he
  | case3 _ _ _ _ _ _ _ _ ih => exact ih
  | case4 => exact .ok _

theorem breaksAt_readName (size : Nat) (s : List Char) : BreaksAt P (readName size s) := by
  unfold readName
  split
  · next rest =>
    split
    · next e he => exact (breaksAt_readString [] size rest).passed he
    · split
      · exact .ok _
      · exact .malformed
  · exact .malformed

theorem breaksAt_readMembers {read : Reader Tree} (h : ∀ s, BreaksAt P (read s))
    (done : List (String × Tree)) (size : Nat) (s : List Char) :
    BreaksAt P (readMembers read done size s) := by
  fun_induction readMembers read done size s with
  | case1 | case6 => exact .malformed
  | case2 _ size s e he => exact (breaksAt_readName (size + 1) s).passed he
  | case3 _ _ _ _ rest _ e he => exact (h rest).passed he
  | case4 _ _ _ _ _ _ _ _ _ _ _ _ ih => exact ih
  | case5 => exact .ok _

/-- By induction on the depth: the readers of collections break off only where that of their members
does. -/
theorem breaksAt_readValue (size depth : Nat) (s : List Char) :
    BreaksAt BadValue.IsTooLong (readValue size depth s) := by
  induction depth generalizing s with
  | zero =>
    unfold readValue
    split
    · exact .tooDeep
    · exact .tooDeep
    · exact (breaksAt_readScalar size s).map _
  | succ depth ih =>
    unfold readValue
    split
    · split
      · exact .ok _
      · exact breaksAt_readItems ih [] size _
    · split
      · exact .ok _
      · exact breaksAt_readMembers ih [] size _
    · exact (breaksAt_readScalar size s).map _

/-- A text that is read as JSON breaks off only at a long integer. -/
theorem breaksAt_read (depth : Nat) (s : List Char) :
    BreaksAt BadValue.IsTooLong (read depth s) := by
  unfold read
  split
  · next e he => exact (breaksAt_readValue _ _ _).passed he
  · split
    · exact .ok _
    · exact .malformed

end FileQuery.Document.Json

namespace FileQuery.Document.Toml

variable {P : BadValue → Prop}

/-! ## 3. Texts of TOML -/

theorem breaksAt_skipComment (s : List Char) : BreaksAt P (skipComment s) := by
  unfold skipComment
  split
  · split
    · exact .ok _
    · exact .malformed
  · exact .ok _

theorem breaksAt_readCode (digits : Nat) (s : List Char) : BreaksAt P (readCode digits s) := by
  unfold readCode
  split
  · split
    · exact .ok _
    · exact .malformed
  · exact .malformed

theorem breaksAt_readLineEnd (s : List Char) : BreaksAt P (readLineEnd s) := by
  unfold readLineEnd
  split
  · exact .ok _
  · exact .ok _
  · exact .malformed

theorem breaksAt_readEscape (multiline : Bool) (s : List Char) :
    BreaksAt P (readEscape multiline s) := by
  unfold readEscape
  split
  · exact .malformed
  · exact breaksAt_readCode 4 _
  · exact breaksAt_readCode 8 _
  · split
    · exact breaksAt_readLineEnd _
    · split
      · exact .ok _
      · exact .malformed

theorem breaksAt_readBasic (multiline : Bool) (done : List Char) (size : Nat) (s : List Char) :
    BreaksAt P (readBasic multiline done size s) := by
  fun_induction readBasic multiline done size s with
  | case3 | case4 => exact .ok _
  | case5 _ _ _ _ _ _ _ ih | case6 _ _ _ _ _ _ _ _ _ ih | case8 _ _ _ _ _ _ _ ih => exact ih
  | case7 _ _ _ rest _ _ e he => exact (breaksAt_readEscape multiline rest).passed he
  | _ => exact .malformed

theorem breaksAt_readLines (done s : List Char) : BreaksAt P (readLines done s) := by
  fun_induction readLines done s with
  | case2 => exact .ok _
  | case3 _ _ _ _ _ ih => exact ih
  | _ => exact .malformed

theorem breaksAt_readLiteral (s : List Char) : BreaksAt P (readLiteral s) := by
  unfold readLiteral
  dsimp only
  split
  · split
    · exact .ok _
    · exact .malformed
  · exact .malformed

theorem breaksAt_readLine (size : Nat) (s : List Char) : BreaksAt P (readLine size s) := by
  unfold readLine
  dsimp only
  refine .map ?_ _
  split
  · exact breaksAt_readBasic false [] size _
  · exact breaksAt_readLiteral _
  · exact .malformed

theorem breaksAt_readText (size : Nat) (s : List Char) : BreaksAt P (readText size s) := by
  unfold readText
  split
  · exact (breaksAt_readBasic true [] size _).bind fun _ => .ok _
  · exact (breaksAt_readLines [] _).bind fun _ => .ok _
  · exact breaksAt_readLine size s

/-! ## 4. Numbers of TOML -/

theorem takeGroups_spec (done s : List Char) (h : ∀ c ∈ done, isDigit c = true) :
    (∀ c ∈ (takeGroups isDigit done s).1, isDigit c = true) ∧
      (done ≠ [] → (takeGroups isDigit done s).1 ≠ []) := by
  fun_induction takeGroups isDigit done s with
  | case1 done c rest hc ih | case3 done c rest _ hc ih =>
    obtain ⟨hdigits, hne⟩ := ih (List.forall_mem_cons.2 ⟨hc, h⟩)
    exact ⟨hdigits, fun _ => hne (by simp)⟩
  | _ => simpa using h

/-- Digits that were read are digits, and there are some. -/
theorem isDigit_of_readGroups {s digits rest : List Char}
    (h : readGroups isDigit s = some (digits, rest)) :
    digits ≠ [] ∧ ∀ c ∈ digits, isDigit c = true := by
  unfold readGroups at h
  split at h
  · next c t =>
    split at h
    · next hc =>
      have hfirst : takeGroups isDigit [] (c :: t) = takeGroups isDigit [c] t := by
        -- the first of them joins nothing
        have hjoint : c ≠ '_' := by
          rintro rfl
          revert hc
          decide
        rw [takeGroups]
        · rw [if_pos hc]
        · exact fun _ _ h => absurd h hjoint
      have hspec := takeGroups_spec [c] t (by simpa using hc)
      rw [← hfirst, Option.some.inj h] at hspec
      exact ⟨hspec.2 (by simp), hspec.1⟩
    · cases h
  · cases h

theorem takeSign_cases (s : List Char) :
    (takeSign s).1 = [] ∨ (takeSign s).1 = ['-'] ∨ (takeSign s).1 = ['+'] := by
  unfold takeSign
  cases s with
  | nil => exact .inl rfl
  | cons c s =>
    by_cases hplus : c = '+'
    · exact .inr (.inr (by simp [hplus]))
    · by_cases hminus : c = '-'
      · exact .inr (.inl (by simp [hminus]))
      · exact .inl (by simp [hplus, hminus])

theorem breaksAt_readDecimal {s : List Char} {r : Except ReadFault (Scalar × List Char)}
    (h : readDecimal? s = some r) : BreaksAt BadValue.IsTooLong r := by
  unfold readDecimal? at h
  dsimp only at h
  obtain ⟨⟨whole, t⟩, hwhole, rfl⟩ := Option.map_eq_some_iff.1 h
  have hdigits : whole ≠ [] ∧ ∀ c ∈ whole, isDigit c = true := by
    split at hwhole
    · cases hwhole
      exact ⟨by simp, by simp [isDigit]⟩
    · exact isDigit_of_readGroups hwhole
  split
  · split
    · exact .ok _
    · next fault hfault =>
      exact .badValue (isTooLong_of_readInteger (takeSign_cases s) hdigits.1 hdigits.2 hfault)
  · split
    · exact .ok _
    · exact .malformed

theorem breaksAt_readScalar (s : List Char) : BreaksAt BadValue.IsTooLong (readScalar s) := by
  have hmoment : ∀ r, readMoment? s = some r → BreaksAt BadValue.IsTooLong r := by
    intro r h
    obtain ⟨⟨date, t⟩, -, rfl⟩ := Option.map_eq_some_iff.1 h
    dsimp only
    split
    · exact .malformed
    · split <;> exact .ok _
  -- of all forms only integers can be too long
  unfold readScalar
  split
  · exact .ok _
  · exact .ok _
  · split
    · next r hr => exact hmoment r hr
    · split
      · exact .ok _
      · split
        · exact .ok _
        · split
          · next r hr => exact breaksAt_readDecimal hr
          · split
            · exact .ok _
            · exact .malformed

/-! ## 5. Keys and values of TOML -/

theorem breaksAt_readName (size : Nat) (s : List Char) : BreaksAt P (readName size s) := by
  unfold readName
  dsimp only
  split
  · exact (breaksAt_readLine size s).map _
  · exact .ok _

theorem breaksAt_readNames (size : Nat) (done : Key) (fuel : Nat) (s : List Char) :
    BreaksAt P (readNames size done fuel s) := by
  fun_induction readNames size done fuel s with
  | case1 => exact .malformed
  | case2 _ _ s e he => exact (breaksAt_readName size s).passed he
  | case3 _ _ _ _ _ _ ih => exact ih
  | case4 => exact .ok _

theorem breaksAt_readPair {read : Reader Tree} (h : ∀ s, BreaksAt P (read s)) (size : Nat)
    (s : List Char) : BreaksAt P (readPair size read s) := by
  unfold readPair
  split
  · next e he => exact (breaksAt_readNames size [] size s).passed he
  · exact (h _).map _
  · exact .malformed

theorem breaksAt_skipLines (fuel : Nat) (s : List Char) : BreaksAt P (skipLines fuel s) := by
  fun_induction skipLines fuel s with
  | case1 | case4 => exact .ok _
  | case2 _ _ _ _ _ _ ih => exact ih
  | case3 _ _ rest _ e he => exact (breaksAt_skipComment ('#' :: rest)).passed he

theorem breaksAt_addMember (name : String) (value : Tree) (members : Members) :
    BreaksAt P (addMember name value members) := by
  unfold addMember
  split
  · exact .malformed
  · exact .ok _

theorem breaksAt_addTable (name : String) (members : Members) :
    BreaksAt P (addTable name members) := by
  unfold addTable
  split
  · exact .ok _
  · exact .ok _
  · exact .malformed

theorem breaksAt_changeTable {change : Members → Except ReadFault Members}
    (h : ∀ members, BreaksAt P (change members)) (throughLists : Bool) (key : Key)
    (members : Members) : BreaksAt P (changeTable throughLists change key members) := by
  induction key generalizing members with
  | nil => exact h members
  | cons name key ih =>
    unfold changeTable
    split
    · exact (ih []).bind fun _ => .ok _
    · exact (ih _).bind fun _ => .ok _
    · split
      · exact (ih _).bind fun _ => .ok _
      · exact .malformed
    · exact .malformed

theorem breaksAt_readItems {read : Reader Tree} (h : ∀ s, BreaksAt P (read s)) (size : Nat)
    (done : List Tree) (fuel : Nat) (s : List Char) :
    BreaksAt P (readItems size read done fuel s) := by
  induction fuel generalizing done s with
  | zero => exact .malformed
  | succ fuel ih =>
    unfold readItems
    split
    · exact .ok _
    · refine (h _).bind fun _ => (breaksAt_skipLines size _).bind fun rest => ?_
      split
      · exact .ok _
      · exact (breaksAt_skipLines size _).bind fun rest => ih _ rest
      · exact .malformed

theorem breaksAt_readMembers {read : Reader Tree} (h : ∀ s, BreaksAt P (read s)) (size : Nat)
    (members : Members) (guards : Guards) (fuel : Nat) (s : List Char) :
    BreaksAt P (readMembers size read members guards fuel s) := by
  induction fuel generalizing members guards s with
  | zero => exact .malformed
  | succ fuel ih =>
    unfold readMembers
    refine (breaksAt_readPair h size s).bind fun ((key, t), rest) => ?_
    dsimp only
    split
    · exact .malformed
    · refine (breaksAt_changeTable (breaksAt_addMember _ t) false _ members).bind fun members => ?_
      split
      · exact .ok _
      · exact ih members _ _
      · exact .malformed

theorem breaksAt_readLeaf (size : Nat) (s : List Char) :
    BreaksAt BadValue.IsTooLong (readValue.readLeaf size s) := by
  unfold readValue.readLeaf
  split
  · exact (breaksAt_readText size _).map _
  · exact (breaksAt_readText size _).map _
  · exact (breaksAt_readScalar s).map _

/-- By induction on the depth, as in JSON. -/
theorem breaksAt_readValue (size depth : Nat) (s : List Char) :
    BreaksAt BadValue.IsTooLong (readValue size depth s) := by
  induction depth generalizing s with
  | zero =>
    unfold readValue
    split
    · exact .tooDeep
    · exact .tooDeep
    · exact breaksAt_readLeaf size s
  | succ depth ih =>
    unfold readValue
    split
    · exact (breaksAt_skipLines size _).bind fun rest => breaksAt_readItems ih size [] size rest
    · split
      · exact .ok _
      · exact breaksAt_readMembers ih size [] _ size _
    · exact breaksAt_readLeaf size s

/-! ## 6. TOML -/

theorem State.breaksAt_set (state : State) (key : Key) (t : Tree) : BreaksAt P (state.set key t) := by
  unfold set
  dsimp only
  split
  · exact .malformed
  · split
    · exact .malformed
    · exact (breaksAt_changeTable (breaksAt_addMember _ t) true _ _).bind fun _ => .ok _

theorem State.breaksAt_openTable (state : State) (key : Key) : BreaksAt P (state.openTable key) := by
  unfold openTable
  split
  · exact .malformed
  · exact (breaksAt_changeTable .ok true key _).bind fun _ => .ok _

theorem State.breaksAt_openItem (state : State) (key : Key) : BreaksAt P (state.openItem key) := by
  unfold openItem
  split
  · exact .malformed
  · exact (breaksAt_changeTable (breaksAt_addTable _) true _ _).bind fun _ => .ok _

theorem breaksAt_readHeader (size : Nat) (state : State) (s : List Char) :
    BreaksAt P (readHeader size state s) := by
  unfold readHeader
  split
  · refine (breaksAt_readNames size [] size _).bind fun (key, rest) => ?_
    refine (state.settle.breaksAt_openItem key).bind fun state => ?_
    split
    · exact .ok _
    · exact .malformed
  · refine (breaksAt_readNames size [] size _).bind fun (key, rest) => ?_
    refine (state.settle.breaksAt_openTable key).bind fun state => ?_
    split
    · exact .ok _
    · exact .malformed
  · exact .malformed

theorem breaksAt_readStatement (size depth : Nat) (state : State) (s : List Char) :
    BreaksAt BadValue.IsTooLong (readStatement size depth state s) := by
  unfold readStatement
  split
  · split
    · refine (breaksAt_readPair (breaksAt_readValue size _) size _).bind fun ((key, t), rest) => ?_
      exact (state.breaksAt_set key t).bind fun _ => .ok _
    · split
      · exact .ok _
      · exact breaksAt_readHeader size state _
  · exact .ok _

theorem breaksAt_readStatements (size depth : Nat) (state : State) (fuel : Nat) (s : List Char) :
    BreaksAt BadValue.IsTooLong (readStatements size depth state fuel s) := by
  induction fuel generalizing state s with
  | zero => exact .malformed
  | succ fuel ih =>
    unfold readStatements
    split
    · exact .ok _
    · exact ih state _
    · refine (breaksAt_readStatement size depth state _).bind fun (state, rest) => ?_
      refine (breaksAt_skipComment _).bind fun rest => ?_
      split
      · exact .ok _
      · exact ih state _
      · exact .malformed

/-- A text that is read as TOML breaks off only at a long integer. -/
theorem breaksAt_read (depth : Nat) (s : List Char) :
    BreaksAt BadValue.IsTooLong (read depth s) :=
  (breaksAt_readStatements _ _ _ _ _).map _

end FileQuery.Document.Toml
