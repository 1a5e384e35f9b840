import FileQuery.Proofs.Document.PathIndex
import FileQuery.Proofs.Query.Literal.Bounds
import FileQuery.Proofs.Query.Typing

/-!
# When the reading of a query breaks off

A query that is not accepted has an error of syntax or of types, unless something in it is out of all
bounds: the index of a path, a size, a time, or a number, the flags or the depth of a regular
expression.  Which of these breaks the reading off, and when, is told by the first predicate that is not
accepted.
-/

namespace FileQuery.Query

variable {stack : Pattern.Stack}

/-! ## 1. Predicates from left to right -/

mutual
def RawExpr.predicates : RawExpr → List RawPredicate
  | .pred p => [p]
  | .not e => e.predicates
  | .and es => rawPredicatesOf es
  | .or es => rawPredicatesOf es
def rawPredicatesOf : List RawExpr → List RawPredicate
  | [] => []
  | e :: es => e.predicates ++ rawPredicatesOf es
end

section check

variable {ε : Type} (test : RawPredicate → Except ε Predicate)

mutual
/-- Checking a tree is checking its predicates one after the other. -/
theorem RawExpr.map_predicates_check : ∀ e : RawExpr,
    (e.check test).map Expr.predicates = e.predicates.mapM test
  | .pred p => by
    rw [RawExpr.check, RawExpr.predicates, List.mapM_cons]
    cases test p <;> rfl
  | .not e => by
    rw [RawExpr.check, RawExpr.predicates, ← e.map_predicates_check]
    cases e.check test <;> rfl
  | .and es => by
    rw [RawExpr.check, RawExpr.predicates, ← map_predicatesOf_checkAll es]
    cases checkAll test es <;> rfl
  | .or es => by
    rw [RawExpr.check, RawExpr.predicates, ← map_predicatesOf_checkAll es]
    cases checkAll test es <;> rfl

theorem map_predicatesOf_checkAll : ∀ es : List RawExpr,
    (checkAll test es).map predicatesOf = (rawPredicatesOf es).mapM test
  | [] => rfl
  | e :: es => by
    rw [checkAll, rawPredicatesOf, List.mapM_append, ← e.map_predicates_check,
      ← map_predicatesOf_checkAll es]
    cases e.check test with
    | error fault => rfl
    | ok e' => cases checkAll test es <;> rfl
end

/-- A tree is refused as its first predicate is that is refused. -/
theorem RawExpr.check_error_iff {e : RawExpr} {fault : ε} : e.check test = .error fault ↔
    ∃ before p after, e.predicates = before ++ p :: after ∧
      (∀ q ∈ before, ∃ x, test q = .ok x) ∧ test p = .error fault := by
  rw [← mapM_eq_error, ← e.map_predicates_check, map_eq_error]

end check

/-! ## 2. What is out of all bounds -/

def RawValue.texts (value : RawValue) (op : Operator) : List String :=
  if op = .member then
    match value.form with
    | .set items => items
    | .quoted => [value.text]
    | .bare => splitItems value.text
  else [value.text]

/-- A predicate that compares an attribute: its selector, its operator, and a value that the operator
can take. -/
structure RawPredicate.Compares (p : RawPredicate) (selector : Selector) (op : Operator)
    (value : RawValue) : Prop where
  noColon : p.selector.toList.contains ':' = false
  lookup : selectorTable.lookup (Text.lower p.selector) = some selector
  comparison : ∃ c, p.comparison = some c ∧ c.value = value ∧
    (operatorTable selector.family).lookup (Text.lower c.operator) = some op
  form : value.items? = none ∨ op = .member

structure RawPredicate.LooksInto (p : RawPredicate) (format : Document.Format) (path : String) :
    Prop where
  colon : p.selector.toList.contains ':' = true
  format : formatTable.lookup (Text.lower (splitColon p.selector).1) = some format
  path : (splitColon p.selector).2 = path

/-- What in a predicate is out of all bounds. -/
inductive RawPredicate.Oversteps (stack : Pattern.Stack) (clock : Clock) (p : RawPredicate) :
    Breakdown → Prop
  | index {format : Document.Format} {path : String} {rest : List Char}
      {fault : Number.IntegerFault} : p.LooksInto format path → path.toList = '.' :: rest →
      Document.BreaksOff fault 0 ('.' :: rest) → Oversteps stack clock p (.index fault)
  | size {op : Operator} {value : RawValue} {before after : List String} {text : String} :
      p.Compares .size op value → value.texts op = before ++ text :: after →
      (∀ t ∈ before, ∃ n, readSize t = .ok n) → IsHuge text →
      Oversteps stack clock p (.literal .sizeTooLarge)
  | time {selector : Selector} {op : Operator} {value : RawValue} :
      p.Compares selector op value → selector.family = .temporal → IsTooFar clock value.text →
      Oversteps stack clock p (.literal (.range .moment))
  | pattern {selector : Selector} {value : RawValue} {fault : Pattern.Fault} :
      p.Compares selector .matching value → selector.family = .string ∨ selector.family = .content →
      Pattern.ofRegex stack value.text = .error fault → fault.isRefusal = false →
      Oversteps stack clock p (.pattern fault)
  | documentPattern {format : Document.Format} {path : String} {steps : Document.Path}
      {c : RawComparison} {l : Document.Literal} {fault : Pattern.Fault} : p.LooksInto format path →
      Document.Path.read path = .ok steps → p.comparison = some c →
      (operatorTable .structured).lookup (Text.lower c.operator) = some .matching →
      c.value.items? = none →
      Document.Literal.read c.value.text (c.value.form == .quoted) = .ok l →
      Pattern.ofRegex stack c.value.text = .error fault → fault.isValueFault = false →
      Oversteps stack clock p (.pattern fault)

/-! ## 3. Steps that do not break off -/

section steps

variable {α β : Type} {b : Breakdown} {value : RawValue} {op : Operator}

/-- A step that fails with an error of types only. -/
def Steady (r : Except QueryFault α) : Prop := ∀ b, r ≠ .error (.brokenDown b)

theorem steady_refuseValue (value : RawValue) (cause : TypeCause) :
    Steady (refuseValue value cause : Except QueryFault α) := nofun

theorem steady_checkForm (op : Operator) (value : RawValue) (remedy : String) :
    Steady (checkForm op value remedy) := by
  unfold checkForm
  split
  · split
    · exact nofun
    · exact steady_refuseValue value _
  · exact nofun

theorem steady_checkOperator (c : RawComparison) (family : Family) (selector : String) :
    Steady (checkOperator c family selector) := by
  unfold checkOperator
  dsimp only
  split <;> exact nofun

theorem steady_checkFileType (value : RawValue) (text : String) :
    Steady (checkFileType value text) := by
  unfold checkFileType
  split <;> exact nofun

theorem steady_checkFormat (raw : RawPredicate) (front : String) :
    Steady (checkFormat raw front) := by
  unfold checkFormat
  split <;> exact nofun

theorem setMembers_eq (value : RawValue) : setMembers value =
    if (value.texts .member).isEmpty then refuseValue value .emptySet
    else .ok (value.texts .member) := by
  rw [RawValue.texts, if_pos rfl]
  rfl

theorem steady_setMembers (value : RawValue) : Steady (setMembers value) := by
  rw [setMembers_eq]
  split
  · exact steady_refuseValue value _
  · exact nofun

/-- A step that does not break off leaves it to what follows. -/
theorem Steady.bind_iff {x : Except QueryFault α} (h : Steady x) {f : α → Except QueryFault β} :
    x >>= f = .error (.brokenDown b) ↔ ∃ a, x = .ok a ∧ f a = .error (.brokenDown b) := by
  rw [bind_eq_error]
  exact or_iff_right (h b)

theorem steady_mapM {f : α → Except QueryFault β} (hf : ∀ a, Steady (f a)) (xs : List α) :
    Steady (xs.mapM f) := by
  intro b h
  obtain ⟨-, x, -, -, -, hx⟩ := mapM_eq_error.1 h
  exact hf x b hx

/-- The last step of a row decides what the row returns, not whether it breaks off. -/
theorem bind_ok_iff {x : Except QueryFault α} {f : α → β} :
    (x >>= fun a => .ok (f a)) = .error (.brokenDown b) ↔ x = .error (.brokenDown b) := by
  rw [bind_eq_error]
  refine or_iff_left ?_
  rintro ⟨a, -, h⟩
  cases h

/-- Only membership takes a set in brackets. -/
theorem checkForm_ok_iff {remedy : String} :
    checkForm op value remedy = .ok () ↔ value.items? = none ∨ op = .member := by
  unfold checkForm RawValue.items?
  cases value.form with
  | set items =>
    dsimp only
    by_cases hop : op = .member
    · rw [if_pos hop]
      exact iff_of_true rfl (.inr hop)
    · rw [if_neg hop]
      refine iff_of_false nofun ?_
      rintro (h | h)
      · cases h
      · exact hop h
  | bare => exact iff_of_true rfl (.inl rfl)
  | quoted => exact iff_of_true rfl (.inl rfl)

theorem setMembers_ok_iff {items : List String} :
    setMembers value = .ok items ↔ value.texts .member = items ∧ items ≠ [] := by
  rw [setMembers_eq]
  by_cases hempty : value.texts .member = []
  · rw [if_pos (by rw [hempty]; rfl)]
    refine iff_of_false nofun ?_
    rintro ⟨rfl, hne⟩
    exact hne hempty
  · rw [if_neg (by simpa using hempty)]
    constructor
    · intro h
      cases h
      exact ⟨rfl, hempty⟩
    · rintro ⟨rfl, -⟩
      rfl

theorem acceptLiteral_ok_iff {use : ValueUse} {text : String} {x : α} {r : Except LiteralFault α} :
    acceptLiteral use value text r = .ok x ↔ r = .ok x := by
  unfold acceptLiteral
  split
  · simp
  · refine iff_of_false ?_ nofun
    split <;> exact nofun

/-- A fault for which a value is not refused breaks the check off. -/
theorem refused_or_brokenDown_iff {isRefused : Bool} {cause : TypeCause} {b' : Breakdown} :
    (if isRefused then refuseValue value cause else .error (.brokenDown b') : Except QueryFault α) =
      .error (.brokenDown b) ↔ b = b' ∧ isRefused = false := by
  cases isRefused with
  | true =>
    rw [if_pos rfl]
    exact iff_of_false (steady_refuseValue value _ b) fun h => nomatch h.2
  | false =>
    rw [if_neg Bool.false_ne_true]
    constructor
    · rintro ⟨⟩
      exact ⟨rfl, rfl⟩
    · rintro ⟨rfl, -⟩
      rfl

theorem acceptLiteral_error_iff {use : ValueUse} {text : String} {r : Except LiteralFault α} :
    acceptLiteral use value text r = .error (.brokenDown b) ↔
      ∃ fault, b = .literal fault ∧ r = .error fault ∧ fault.isInvalidValue = false := by
  cases r with
  | ok x =>
    refine iff_of_false nofun ?_
    rintro ⟨fault, -, ⟨⟩, -⟩
  | error fault =>
    rw [acceptLiteral, refused_or_brokenDown_iff]
    constructor
    · rintro ⟨rfl, hbreaks⟩
      exact ⟨fault, rfl, rfl, hbreaks⟩
    · rintro ⟨_, rfl, ⟨⟩, hbreaks⟩
      exact ⟨rfl, hbreaks⟩

theorem acceptPattern_error_iff {r : Except Pattern.Fault α} :
    acceptPattern value r = .error (.brokenDown b) ↔
      ∃ fault, b = .pattern fault ∧ r = .error fault ∧ fault.isRefusal = false := by
  cases r with
  | ok x =>
    refine iff_of_false nofun ?_
    rintro ⟨fault, -, ⟨⟩, -⟩
  | error fault =>
    rw [acceptPattern, refused_or_brokenDown_iff]
    constructor
    · rintro ⟨rfl, hbreaks⟩
      exact ⟨fault, rfl, rfl, hbreaks⟩
    · rintro ⟨_, rfl, ⟨⟩, hbreaks⟩
      exact ⟨rfl, hbreaks⟩

/-! ## 4. Values -/

theorem texts_of_ne (h : op ≠ .member) : value.texts op = [value.text] := if_neg h

theorem checkNumber_error_iff {read : String → Except LiteralFault Nat} :
    checkNumber read op value = .error (.brokenDown b) ↔
      ∃ before text after fault, value.texts op = before ++ text :: after ∧
        (∀ t ∈ before, ∃ n, read t = .ok n) ∧
        b = .literal fault ∧ read text = .error fault ∧ fault.isInvalidValue = false := by
  by_cases hop : op = .member
  · rw [hop]
    show (setMembers value >>= fun items =>
      items.mapM (fun text => acceptLiteral .number value text (read text)) >>= fun ns =>
        .ok (Operand.numbers (asSet toString ns))) = _ ↔ _
    rw [(steady_setMembers value).bind_iff]
    simp only [bind_ok_iff, mapM_eq_error, acceptLiteral_ok_iff, acceptLiteral_error_iff,
      setMembers_ok_iff]
    constructor
    · rintro ⟨items, ⟨htexts, -⟩, before, text, after, hitems, hbefore, fault, h⟩
      exact ⟨before, text, after, fault, htexts.trans hitems, hbefore, h⟩
    · rintro ⟨before, text, after, fault, htexts, hbefore, h⟩
      exact ⟨_, ⟨htexts, by simp⟩, before, text, after, rfl, hbefore, fault, h⟩
  · -- every other operator takes a single number
    have hone : checkNumber read op value = acceptLiteral .number value value.text
        (read value.text) >>= fun n => .ok (Operand.number n) := by
      cases op <;> first | rfl | exact absurd rfl hop
    rw [hone, bind_ok_iff, acceptLiteral_error_iff, texts_of_ne hop]
    constructor
    · rintro ⟨fault, h⟩
      exact ⟨[], value.text, [], fault, rfl, nofun, h⟩
    · rintro ⟨before, text, after, fault, htexts, -, h⟩
      cases before with
      | nil =>
        cases htexts
        exact ⟨fault, h⟩
      | cons t before =>
        have hlength := congrArg List.length htexts
        simp at hlength

theorem steady_checkKind (op : Operator) (value : RawValue) : Steady (checkKind op value) := by
  intro b h
  by_cases hop : op = .member
  · rw [hop] at h
    have hset : (setMembers value >>= fun items => items.mapM (checkFileType value) >>= fun ts =>
        .ok (Operand.fileTypes (asSet FileType.name ts))) = .error (.brokenDown b) := h
    rw [(steady_setMembers value).bind_iff] at hset
    obtain ⟨items, -, hmembers⟩ := hset
    rw [bind_ok_iff] at hmembers
    exact steady_mapM (steady_checkFileType value) items b hmembers
  · have hone : checkKind op value = checkFileType value value.text >>= fun t =>
        .ok (Operand.fileType t) := by
      cases op <;> first | rfl | exact absurd rfl hop
    rw [hone, bind_ok_iff] at h
    exact steady_checkFileType value value.text b h

theorem checkText_error_iff : checkText stack op value = .error (.brokenDown b) ↔
    op = .matching ∧ ∃ fault, b = .pattern fault ∧ Pattern.ofRegex stack value.text = .error fault ∧
      fault.isRefusal = false := by
  cases op with
  | matching =>
    show (acceptPattern value (Pattern.ofRegex stack value.text) >>=
      fun p => .ok (Operand.pattern p)) = _ ↔ _
    rw [bind_ok_iff, acceptPattern_error_iff, and_iff_right rfl]
  | member =>
    refine iff_of_false (fun h => ?_) fun h => nomatch h.1
    have hset : (setMembers value >>= fun items => .ok (Operand.texts (asSet quote items))) =
      .error (.brokenDown b) := h
    rw [bind_ok_iff] at hset
    exact steady_setMembers value b hset
  | _ => exact iff_of_false nofun fun h => nomatch h.1

theorem checkContent_error_iff : checkContent stack op value = .error (.brokenDown b) ↔
    op = .matching ∧ ∃ fault, b = .pattern fault ∧ Pattern.ofRegex stack value.text = .error fault ∧
      fault.isRefusal = false := by
  unfold checkContent
  cases op with
  | matching =>
    rw [and_iff_right rfl]
    unfold Content.Matcher.compile
    dsimp only
    cases Pattern.ofRegex stack value.text with
    | ok p =>
      refine iff_of_false nofun ?_
      rintro ⟨fault, -, h, -⟩
      cases h
    | error fault =>
      show acceptPattern value (.error fault : Except Pattern.Fault Operand) = _ ↔ _
      rw [acceptPattern_error_iff]
      simp
  | _ => exact iff_of_false nofun fun h => nomatch h.1

end steps

/-! ## 5. Attributes -/

section attributes

variable {clock : Clock} {p : RawPredicate} {selector : Selector} {op : Operator} {value : RawValue}
  {b : Breakdown}

def checkFamily (stack : Pattern.Stack) (clock : Clock) (selector : Selector) (op : Operator)
    (value : RawValue) : Except QueryFault Operand :=
  match selector.family with
  | .string => checkText stack op value
  | .numeric => checkNumber (if selector = .size then readSize else readCount) op value
  | .temporal => do
    return .moment (← acceptLiteral .time value value.text (readMoment clock value.text))
  | .enum => checkKind op value
  | _ => checkContent stack op value

/-- A comparison of an attribute is checked as its family asks. -/
theorem RawPredicate.Compares.check (h : p.Compares selector op value) :
    checkPredicate stack clock p = checkFamily stack clock selector op value >>= fun operand =>
      .ok ⟨selector, some op, operand⟩ := by
  obtain ⟨c, hc, rfl, hop⟩ := h.comparison
  have hoperator : checkOperator c selector.family selector.id = .ok op := by
    rw [checkOperator, hop]
  have hform : checkForm op c.value (selector.id ++ " in " ++ c.value.text) = .ok () :=
    checkForm_ok_iff.2 h.form
  have hvalue : checkValue stack clock selector op c.value =
      checkFamily stack clock selector op c.value := by
    show checkForm op c.value (selector.id ++ " in " ++ c.value.text) >>= (fun _ =>
      checkFamily stack clock selector op c.value) = _
    rw [hform]
    rfl
  unfold checkPredicate
  rw [hc]
  dsimp only
  rw [h.noColon, h.lookup]
  show (checkOperator c selector.family selector.id >>= fun op =>
    checkValue stack clock selector op c.value >>= fun operand =>
      (.ok ⟨selector, some op, operand⟩ : Except QueryFault Predicate)) = _
  rw [hoperator, ← hvalue]
  rfl

/-- A comparison of an attribute that breaks off has a value that goes with its operator. -/
theorem exists_compares {c : RawComparison} (hc : p.comparison = some c)
    (hcolon : p.selector.toList.contains ':' = false)
    (h : checkPredicate stack clock p = .error (.brokenDown b)) :
    ∃ selector op, p.Compares selector op c.value := by
  unfold checkPredicate at h
  rw [hc] at h
  dsimp only at h
  rw [hcolon] at h
  cases hselector : selectorTable.lookup (Text.lower p.selector) with
  | none =>
    rw [hselector] at h
    cases h
  | some selector =>
    rw [hselector] at h
    have hsteps : (checkOperator c selector.family selector.id >>= fun op =>
        checkValue stack clock selector op c.value >>= fun operand =>
          (.ok ⟨selector, some op, operand⟩ : Except QueryFault Predicate)) =
            .error (.brokenDown b) := h
    -- neither an operator nor the form of a value breaks the check off
    obtain ⟨op, hop, hvalue⟩ := (steady_checkOperator _ _ _).bind_iff.1 hsteps
    rw [bind_ok_iff] at hvalue
    have hvalue' : (checkForm op c.value (selector.id ++ " in " ++ c.value.text) >>= fun _ =>
        checkFamily stack clock selector op c.value) = .error (.brokenDown b) := hvalue
    obtain ⟨_, hform, -⟩ := (steady_checkForm _ _ _).bind_iff.1 hvalue'
    refine ⟨selector, op, hcolon, hselector, ⟨c, hc, rfl, ?_⟩, checkForm_ok_iff.1 hform⟩
    unfold checkOperator at hop
    dsimp only at hop
    split at hop
    · next op' hlookup =>
      cases hop
      exact hlookup
    · cases hop

/-- What breaks off in the value of an attribute is out of all bounds. -/
theorem RawPredicate.Compares.oversteps (h : p.Compares selector op value)
    (hb : checkFamily stack clock selector op value = .error (.brokenDown b)) :
    p.Oversteps stack clock b := by
  unfold checkFamily at hb
  cases hfamily : selector.family with
  | string =>
    rw [hfamily] at hb
    obtain ⟨rfl, fault, rfl, hregex, hrefusal⟩ := checkText_error_iff.1 hb
    exact .pattern h (.inl hfamily) hregex hrefusal
  | numeric =>
    rw [hfamily] at hb
    obtain ⟨before, text, after, fault, htexts, hbefore, rfl, hread, hinvalid⟩ :=
      checkNumber_error_iff.1 hb
    by_cases hsize : selector = .size
    · subst hsize
      rw [if_pos rfl] at hread
      obtain ⟨rfl, hhuge⟩ := readSize_error_iff.1 ⟨hread, hinvalid⟩
      exact .size h htexts (by simpa using hbefore) hhuge
    · rw [if_neg hsize] at hread
      rw [isInvalidValue_of_readCount hread] at hinvalid
      cases hinvalid
  | temporal =>
    rw [hfamily] at hb
    obtain ⟨fault, rfl, hread⟩ := acceptLiteral_error_iff.1 (bind_ok_iff.1 hb)
    obtain ⟨rfl, hfar⟩ := readMoment_error_iff.1 hread
    exact .time h hfamily hfar
  | enum =>
    rw [hfamily] at hb
    exact absurd hb (steady_checkKind op value b)
  | content =>
    rw [hfamily] at hb
    obtain ⟨rfl, fault, rfl, hregex, hrefusal⟩ := checkContent_error_iff.1 hb
    exact .pattern h (.inr hfamily) hregex hrefusal
  | structured =>
    -- formats are no attributes
    cases selector with
    | document format => exact absurd rfl (selector_ne_document _ (mem_of_lookup h.lookup) format)
    | _ => cases hfamily

/-- A comparison breaks off as the reading of its value does. -/
theorem RawPredicate.Compares.check_error (h : p.Compares selector op value)
    (hb : checkFamily stack clock selector op value = .error (.brokenDown b)) :
    checkPredicate stack clock p = .error (.brokenDown b) := by
  rw [h.check, hb]
  rfl

theorem oversteps_of_attribute {c : RawComparison} (hc : p.comparison = some c)
    (hcolon : p.selector.toList.contains ':' = false)
    (h : checkPredicate stack clock p = .error (.brokenDown b)) : p.Oversteps stack clock b := by
  obtain ⟨selector, op, hcompares⟩ := exists_compares hc hcolon h
  rw [hcompares.check, bind_ok_iff] at h
  exact hcompares.oversteps h

end attributes

/-! ## 6. Documents -/

section documents

variable {clock : Clock} {p : RawPredicate} {c : RawComparison} {format : Document.Format}
  {path : String} {steps : Document.Path} {front : String} {b : Breakdown}

theorem checkOperator_ok_iff {family : Family} {selector : String} {op : Operator} :
    checkOperator c family selector = .ok op ↔
      (operatorTable family).lookup (Text.lower c.operator) = some op := by
  unfold checkOperator
  dsimp only
  split
  · next op' h => simp [h]
  · next h => simp [h]

theorem checkFormat_ok_iff : checkFormat p front = .ok format ↔
    formatTable.lookup (Text.lower front) = some format := by
  unfold checkFormat
  split
  · next format' h => simp [h]
  · next h => simp [h]

theorem checkPath_ok_iff : checkPath p front path = .ok steps ↔
    Document.Path.read path = .ok steps := by
  unfold checkPath
  split
  · next steps' h => simp [h]
  · next h => simp [h]
  · next h => simp [h]

theorem checkPath_error_iff : checkPath p front path = .error (.brokenDown b) ↔
    ∃ fault, b = .index fault ∧ Document.Path.read path = .error (.index fault) := by
  unfold checkPath
  split
  · next steps h => simp [h]
  · next cause position h => simp [h]
  · next fault h => simp [h, eq_comm]

theorem acceptMatcher_error_iff {value : RawValue}
    {r : Except Document.MatcherFault Document.Matcher} :
    acceptMatcher value r = .error (.brokenDown b) ↔
      ∃ fault, b = .pattern fault ∧ fault.isValueFault = false ∧
        ∃ raw, r = .error (.regex raw fault) := by
  cases r with
  | ok m =>
    refine iff_of_false nofun ?_
    rintro ⟨fault, -, -, raw, ⟨⟩⟩
  | error matcherFault =>
    -- all faults are refused but those of patterns that are no faults of a value
    cases matcherFault with
    | regex raw fault =>
      by_cases hfault : fault.isValueFault = true
      · have hnone : (Document.MatcherFault.regex raw fault).unforeseen? = none := if_pos hfault
        rw [acceptMatcher, hnone]
        refine iff_of_false nofun ?_
        rintro ⟨_, -, hvalue, _, ⟨⟩⟩
        rw [hfault] at hvalue
        cases hvalue
      · have hsome : (Document.MatcherFault.regex raw fault).unforeseen? = some fault :=
          if_neg hfault
        rw [acceptMatcher, hsome]
        constructor
        · intro h
          cases h
          exact ⟨fault, rfl, by simpa using hfault, raw, rfl⟩
        · rintro ⟨_, rfl, -, _, ⟨⟩⟩
          rfl
    | _ =>
      refine iff_of_false nofun ?_
      rintro ⟨_, -, -, _, ⟨⟩⟩

theorem literal_ne_regex {α : Type} {x : Except Number.IntegerFault α} {raw : String}
    {fault : Pattern.Fault} : x.mapError Document.MatcherFault.literal ≠ .error (.regex raw fault) := by
  intro h
  obtain ⟨_, -, h⟩ := mapError_eq_error.1 h
  cases h

theorem checkNumeric_ne_regex {op : Operator} {l : Document.Literal} {raw : String}
    {fault : Pattern.Fault} : Document.Matcher.checkNumeric op l ≠ .error (.regex raw fault) := by
  intro h
  unfold Document.Matcher.checkNumeric at h
  split at h
  · rcases bind_eq_error.1 h with h | ⟨number, -, h⟩
    · obtain ⟨_, -, h⟩ := mapError_eq_error.1 h
      cases h
    · split at h <;> cases h
  · cases h

theorem checkNumeric_matching (l : Document.Literal) :
    Document.Matcher.checkNumeric .matching l = .ok () := rfl

/-- Every operator but membership takes one literal, which is a number for the operators by order. -/
theorem compile_of_ne_member {op : Operator} (hop : op ≠ .member) (raw : String) (quoted : Bool)
    (items : List String) :
    Document.Matcher.compile stack format steps (some op) raw quoted items =
      (Document.Literal.read raw quoted).mapError .literal >>= fun l =>
        Document.Matcher.checkNumeric op l >>= fun _ =>
          if op = .matching then
            ((Pattern.ofRegex stack raw).mapError (.regex raw)).map fun p =>
              ⟨format, steps, .pattern l p⟩
          else .ok ⟨format, steps, .compare op l⟩ := by
  cases op <;> first | exact absurd rfl hop | rfl

/-- A condition has no pattern when the text that it is to be read from has none. -/
theorem compile_regex_iff {op : Operator} {raw raw' : String} {quoted : Bool} {items : List String}
    {fault : Pattern.Fault} :
    Document.Matcher.compile stack format steps (some op) raw quoted items = .error (.regex raw' fault) ↔
      op = .matching ∧ raw' = raw ∧ (∃ l, Document.Literal.read raw quoted = .ok l) ∧
        Pattern.ofRegex stack raw = .error fault := by
  -- sets have no patterns
  by_cases hmember : op = .member
  · subst hmember
    refine iff_of_false ?_ nofun
    intro h
    rcases bind_eq_error.1 h with h | ⟨members, -, h⟩
    · obtain ⟨-, x, -, -, -, hx⟩ := mapM_eq_error.1 h
      exact literal_ne_regex hx
    · split at h <;> cases h
  · rw [compile_of_ne_member hmember]
    constructor
    · intro h
      rcases bind_eq_error.1 h with h | ⟨l, hl, h⟩
      · exact absurd h literal_ne_regex
      rcases bind_eq_error.1 h with h | ⟨_, -, h⟩
      · exact absurd h checkNumeric_ne_regex
      · split at h
        · next hmatching =>
          obtain ⟨_, hregex, h⟩ := mapError_eq_error.1 (map_eq_error.1 h)
          cases h
          exact ⟨hmatching, rfl, ⟨l, mapError_eq_ok.1 hl⟩, hregex⟩
        · cases h
    · rintro ⟨rfl, rfl, ⟨l, hl⟩, hregex⟩
      refine bind_eq_error.2 (.inr ⟨l, mapError_eq_ok.2 hl, ?_⟩)
      rw [checkNumeric_matching, hregex]
      rfl

theorem checkComparison_error_iff :
    checkComparison stack front format steps c = .error (.brokenDown b) ↔
      ∃ fault, b = .pattern fault ∧
        (operatorTable .structured).lookup (Text.lower c.operator) = some .matching ∧
        c.value.items? = none ∧
        (∃ l, Document.Literal.read c.value.text (c.value.form == .quoted) = .ok l) ∧
        Pattern.ofRegex stack c.value.text = .error fault ∧ fault.isValueFault = false := by
  have hsteady : ∀ op, Steady (membersFor op c.value) := by
    intro op
    unfold membersFor
    split
    · exact steady_setMembers c.value
    · exact nofun
  unfold checkComparison
  simp only [(steady_checkOperator _ _ _).bind_iff, (steady_checkForm _ _ _).bind_iff,
    (hsteady _).bind_iff, checkOperator_ok_iff]
  constructor
  · rintro ⟨op, hop, _, hform, items, -, h⟩
    obtain ⟨fault, rfl, hvalue, raw, hcompile⟩ := acceptMatcher_error_iff.1 (bind_ok_iff.1 h)
    obtain ⟨rfl, -, hliteral, hregex⟩ := compile_regex_iff.1 hcompile
    have hnone := (checkForm_ok_iff.1 hform).resolve_right nofun
    exact ⟨fault, rfl, hop, hnone, hliteral, hregex, hvalue⟩
  · rintro ⟨fault, rfl, hop, hnone, hliteral, hregex, hvalue⟩
    refine ⟨.matching, hop, (), checkForm_ok_iff.2 (.inl hnone), [], rfl, ?_⟩
    exact bind_ok_iff.2 (acceptMatcher_error_iff.2
      ⟨fault, rfl, hvalue, c.value.text, compile_regex_iff.2 ⟨rfl, rfl, hliteral, hregex⟩⟩)

theorem checkDocument_eq (p : RawPredicate) :
    checkDocument stack p = checkFormat p (splitColon p.selector).1 >>= fun format =>
      checkPath p (splitColon p.selector).1 (splitColon p.selector).2 >>= fun path =>
        match p.comparison with
        | none => .ok ⟨.document format, none, .document ⟨format, path, .exists⟩⟩
        | some c => checkComparison stack (splitColon p.selector).1 format path c := rfl

/-- A predicate that looks into documents breaks off in its path, or in its pattern. -/
theorem checkDocument_error_iff (hcolon : p.selector.toList.contains ':' = true) :
    checkDocument stack p = .error (.brokenDown b) ↔ p.Oversteps stack clock b := by
  rw [checkDocument_eq, (steady_checkFormat _ _).bind_iff]
  simp only [checkFormat_ok_iff, bind_eq_error, checkPath_error_iff, checkPath_ok_iff]
  constructor
  · rintro ⟨format, hformat, ⟨fault, rfl, hindex⟩ | ⟨steps, hpath, h⟩⟩
    · obtain ⟨rest, hpoint, hbreaks⟩ := Document.read_index_iff.1 hindex
      exact .index ⟨hcolon, hformat, rfl⟩ hpoint hbreaks
    · cases hc : p.comparison with
      | none =>
        rw [hc] at h
        cases h
      | some c =>
        rw [hc] at h
        obtain ⟨fault, rfl, hop, hnone, ⟨l, hliteral⟩, hregex, hvalue⟩ :=
          checkComparison_error_iff.1 h
        exact .documentPattern ⟨hcolon, hformat, rfl⟩ hpath hc hop hnone hliteral hregex hvalue
  · intro h
    cases h with
    | index hinto hpoint hbreaks =>
      refine ⟨_, hinto.format, .inl ⟨_, rfl, ?_⟩⟩
      rw [hinto.path]
      exact Document.read_index_iff.2 ⟨_, hpoint, hbreaks⟩
    | documentPattern hinto hpath hc hop hnone hliteral hregex hvalue =>
      refine ⟨_, hinto.format, .inr ⟨_, by rw [hinto.path, hpath], ?_⟩⟩
      rw [hc]
      exact checkComparison_error_iff.2 ⟨_, rfl, hop, hnone, ⟨_, hliteral⟩, hregex, hvalue⟩
    -- the other reasons are about attributes, and those have no colon
    | size hcompares | time hcompares | pattern hcompares =>
      rw [hcompares.noColon] at hcolon
      cases hcolon

end documents

/-! ## 7. Queries -/

section queries

variable {clock : Clock} {p : RawPredicate} {b : Breakdown}

/-- A lone word that is no path in documents is accepted, or has an error of types. -/
theorem steady_checkWord (hcolon : p.selector.toList.contains ':' = false) :
    Steady (checkWord stack p) := by
  intro b
  unfold checkWord
  dsimp only
  rw [hcolon, if_neg Bool.false_ne_true]
  split
  · exact nofun
  · split <;> exact nofun

/-- What is out of all bounds breaks the check of an attribute off. -/
theorem RawPredicate.Oversteps.check_error (hcolon : p.selector.toList.contains ':' = false)
    (h : p.Oversteps stack clock b) : checkPredicate stack clock p = .error (.brokenDown b) := by
  cases h with
  -- paths and patterns of documents stand behind a colon
  | index hinto | documentPattern hinto =>
    rw [hinto.colon] at hcolon
    cases hcolon
  | size hcompares htexts hbefore hhuge =>
    obtain ⟨hread, hinvalid⟩ := readSize_error_iff.2 ⟨rfl, hhuge⟩
    refine hcompares.check_error (checkNumber_error_iff.2 ?_)
    exact ⟨_, _, _, _, htexts, hbefore, rfl, hread, hinvalid⟩
  | time hcompares hfamily hfar =>
    refine hcompares.check_error ?_
    unfold checkFamily
    rw [hfamily]
    refine bind_ok_iff.2 (acceptLiteral_error_iff.2 ⟨_, rfl, ?_⟩)
    exact readMoment_error_iff.2 ⟨rfl, hfar⟩
  | pattern hcompares hfamily hregex hrefusal =>
    refine hcompares.check_error ?_
    unfold checkFamily
    rcases hfamily with hfamily | hfamily <;> rw [hfamily]
    · exact checkText_error_iff.2 ⟨rfl, _, rfl, hregex, hrefusal⟩
    · exact checkContent_error_iff.2 ⟨rfl, _, rfl, hregex, hrefusal⟩

/-- The check of a predicate breaks off just when something in it is out of all bounds. -/
theorem checkPredicate_error_iff :
    checkPredicate stack clock p = .error (.brokenDown b) ↔ p.Oversteps stack clock b := by
  cases hcolon : p.selector.toList.contains ':' with
  | true =>
    have hdocument : checkPredicate stack clock p = checkDocument stack p := by
      unfold checkPredicate checkWord
      cases p.comparison <;> exact if_pos hcolon
    rw [hdocument, checkDocument_error_iff hcolon]
  | false =>
    refine ⟨fun h => ?_, fun h => h.check_error hcolon⟩
    cases hc : p.comparison with
    | none =>
      have hword : checkPredicate stack clock p = checkWord stack p := by
        unfold checkPredicate
        rw [hc]
      rw [hword] at h
      exact absurd h (steady_checkWord hcolon b)
    | some c => exact oversteps_of_attribute hc hcolon h

/-- A query is accepted or has an error of syntax or of types, unless the first of its predicates that
is not accepted has something in it that is out of all bounds: an index, a size, a time, or a number, the
flags or the depth of a regular expression. -/
theorem parse_brokenDown_iff (stack : Pattern.Stack) (clock : Clock) (query : String)
    (b : Breakdown) :
    parse stack clock query = .error (.brokenDown b) ↔
      ∃ raw before p after, parseRaw query = .ok raw ∧ raw.predicates = before ++ p :: after ∧
        (∀ q ∈ before, ∃ x, checkPredicate stack clock q = .ok x) ∧ p.Oversteps stack clock b := by
  rw [parse_eq]
  cases parseRaw query with
  | error e =>
    refine iff_of_false nofun ?_
    rintro ⟨raw, -, -, -, h, -⟩
    cases h
  | ok raw =>
    show raw.check (checkPredicate stack clock) = _ ↔ _
    rw [RawExpr.check_error_iff]
    simp only [checkPredicate_error_iff]
    constructor
    · rintro ⟨before, p, after, h⟩
      exact ⟨raw, before, p, after, rfl, h⟩
    · rintro ⟨_, before, p, after, hraw, h⟩
      cases hraw
      exact ⟨before, p, after, h⟩

set_option maxRecDepth 4000 in
/-- An index in superscript breaks the reading off. -/
theorem parse_superscript_index :
    parse (.ofDepth 9) ⟨.fixed 0 0, .fixed 0⟩ "yaml:.a[²]" =
      .error (.brokenDown (.index (.malformed "²"))) := by
  with_unfolding_all rfl

end queries

end FileQuery.Query
