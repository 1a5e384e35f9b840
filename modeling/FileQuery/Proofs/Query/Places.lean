import FileQuery.Proofs.Query.Expectations

/-!
# Where predicates stand and errors point

The tokens of the predicates of a query follow one another in the query, so the predicates stand in the
tree, from left to right, in the order of their positions.  The check puts every checked predicate where
the unchecked one stood and refuses the leftmost predicate that is at fault.  What it blames is a part of
that predicate: the selector, the format or the path in it, the operator or the value; so the error
points at the text of this part in the query.
-/

namespace FileQuery.Query

variable {stack : Pattern.Stack}

/-! ## 1. The tokens that predicates are read from -/

def RawValue.token (v : RawValue) : Token :=
  match v.form with
  | .bare => ⟨.word v.text, v.position⟩
  | .quoted => ⟨.quoted v.text, v.position⟩
  | .set items => ⟨.set v.text items, v.position⟩

def RawPredicate.tokens (p : RawPredicate) : List Token :=
  ⟨.word p.selector, p.position⟩ :: match p.comparison with
    | none => []
    | some c => [⟨.word c.operator, c.operatorPosition⟩, c.value.token]

theorem RawValue.position_token (v : RawValue) : v.token.position = v.position := by
  rw [RawValue.token]
  split <;> rfl

theorem token_of_value? {t : Token} {v : RawValue} (h : t.value? = some v) : v.token = t := by
  obtain ⟨lexeme, position⟩ := t
  cases lexeme <;> cases h <;> rfl

theorem rawPredicatesOf_append (es fs : List RawExpr) :
    rawPredicatesOf (es ++ fs) = rawPredicatesOf es ++ rawPredicatesOf fs := by
  induction es with
  | nil => rfl
  | cons e es ih => rw [List.cons_append, rawPredicatesOf, rawPredicatesOf, ih, List.append_assoc]

namespace RawExpr

theorem predicates_joined (j : Junction) (es : List RawExpr) :
    (joined j es).predicates = rawPredicatesOf es := by
  match es with
  | [] => cases j <;> rfl
  | [e] => rw [joined, rawPredicatesOf, rawPredicatesOf, List.append_nil]
  | _ :: _ :: _ => cases j <;> rfl

theorem rawPredicatesOf_operandsOf (j : Junction) (e : RawExpr) :
    rawPredicatesOf (operandsOf j e) = e.predicates := by
  cases j <;> cases e <;> simp [operandsOf, rawPredicatesOf, predicates]

mutual
/-- Taking operands of nested nodes together leaves the predicates and their order. -/
theorem predicates_flat : ∀ e : RawExpr, e.flat.predicates = e.predicates
  | .pred _ => rfl
  | .not e => by rw [flat, predicates, predicates, predicates_flat e]
  | .and es => by rw [flat, predicates, predicates, rawPredicatesOf_flatOperands .and es]
  | .or es => by rw [flat, predicates, predicates, rawPredicatesOf_flatOperands .or es]
theorem rawPredicatesOf_flatOperands (j : Junction) : ∀ es : List RawExpr,
    rawPredicatesOf (flatOperands j es) = rawPredicatesOf es
  | [] => rfl
  | e :: es => by
    rw [flatOperands, rawPredicatesOf_append, rawPredicatesOf_operandsOf, predicates_flat e,
      rawPredicatesOf_flatOperands j es, rawPredicatesOf]
end

end RawExpr

namespace Grammar

theorem Predicate.eq_append {ts rest : List Token} {p : RawPredicate} (h : Predicate ts p rest) :
    ts = p.tokens ++ rest := by
  cases h with
  | alone => rfl
  | comparison _ _ hvalue => rw [← token_of_value? hvalue]; rfl

mutual

/-- The tokens of the predicates that are derived are among the tokens in their order. -/
theorem Disjuncts.sublist : ∀ {ts rest : List Token} {es : List RawExpr}, Disjuncts ts es rest →
    ((rawPredicatesOf es).flatMap RawPredicate.tokens ++ rest).Sublist ts
  | _, _, _, .last hes => by
    rw [rawPredicatesOf, rawPredicatesOf, List.append_nil, RawExpr.predicates_joined]
    exact hes.sublist
  | _, _, _, .more hes _ hfs => by
    rw [rawPredicatesOf, RawExpr.predicates_joined, List.flatMap_append, List.append_assoc]
    exact ((hfs.sublist.cons _).append_left _).trans hes.sublist

theorem Conjuncts.sublist : ∀ {ts rest : List Token} {es : List RawExpr}, Conjuncts ts es rest →
    ((rawPredicatesOf es).flatMap RawPredicate.tokens ++ rest).Sublist ts
  | _, _, _, .last he => by
    rw [rawPredicatesOf, rawPredicatesOf, List.append_nil]
    exact he.sublist
  | _, _, _, .more he _ hes => by
    rw [rawPredicatesOf, List.flatMap_append, List.append_assoc]
    exact ((hes.sublist.cons _).append_left _).trans he.sublist

theorem Unary.sublist : ∀ {ts rest : List Token} {e : RawExpr}, Unary ts e rest →
    (e.predicates.flatMap RawPredicate.tokens ++ rest).Sublist ts
  | _, _, _, .primary he => he.sublist
  | _, _, _, .not _ he => he.sublist.cons _

theorem Primary.sublist : ∀ {ts rest : List Token} {e : RawExpr}, Primary ts e rest →
    (e.predicates.flatMap RawPredicate.tokens ++ rest).Sublist ts
  | _, _, _, .predicate hp => by
    rw [hp.eq_append, RawExpr.predicates, List.flatMap_singleton]
  | _, _, _, .parens hes => by
    rw [RawExpr.predicates_joined]
    exact (((List.sublist_cons_self _ _).append_left _).trans hes.sublist).cons _

end

end Grammar

/-- The tokens that the predicates of a query are read from follow one another in the query. -/
theorem sublist_of_parseRaw {query : String} {raw : RawExpr} (h : parseRaw query = .ok raw) :
    ∃ ts, tokenize query = .ok ts ∧ (raw.predicates.flatMap RawPredicate.tokens).Sublist ts := by
  obtain ⟨ts, hts, -⟩ := bind_eq_ok.1 h
  obtain ⟨plain, ⟨es, stop, hes, rfl⟩, rfl⟩ :=
    (ofTokens_ok_iff (ended_of_tokenize hts) raw).1 ((parseRaw_of_tokenize hts raw).1 h)
  rw [RawExpr.predicates_flat, RawExpr.predicates_joined]
  exact ⟨ts, hts, (List.sublist_append_left _ _).trans hes.sublist⟩

theorem sublist_flatMap_tokens (ps : List RawPredicate) :
    (ps.map fun p => (⟨.word p.selector, p.position⟩ : Token)).Sublist
      (ps.flatMap RawPredicate.tokens) := by
  induction ps with
  | nil => exact .refl _
  | cons p ps ih =>
    rw [List.map_cons, List.flatMap_cons, RawPredicate.tokens, List.cons_append]
    exact (ih.trans (List.sublist_append_right _ _)).cons_cons _

/-- From left to right the predicates of a query start at ever greater positions. -/
theorem pairwise_of_parseRaw {query : String} {raw : RawExpr} (h : parseRaw query = .ok raw) :
    raw.predicates.Pairwise fun p q => p.position < q.position := by
  obtain ⟨ts, hts, hsub⟩ := sublist_of_parseRaw h
  have hordered := (pairwise_of_tokenize hts).sublist
    ((sublist_flatMap_tokens raw.predicates).trans hsub)
  rwa [List.pairwise_map] at hordered

/-! ## 2. Predicates are checked in their places -/

/-- The tree that an untyped tree becomes when each predicate is replaced, where it stands, by one that
is related to it. -/
inductive RawExpr.Becomes (related : RawPredicate → Predicate → Prop) : RawExpr → Expr → Prop
  | pred {p : RawPredicate} {x : Predicate} : related p x → Becomes related (.pred p) (.pred x)
  | not {e : RawExpr} {f : Expr} : Becomes related e f → Becomes related (.not e) (.not f)
  | and {es : List RawExpr} {fs : List Expr} :
      List.Forall₂ (Becomes related) es fs → Becomes related (.and es) (.and fs)
  | or {es : List RawExpr} {fs : List Expr} :
      List.Forall₂ (Becomes related) es fs → Becomes related (.or es) (.or fs)

section check

variable {ε : Type} (test : RawPredicate → Except ε Predicate)

mutual
theorem RawExpr.check_ok_iff : ∀ (e : RawExpr) (f : Expr),
    e.check test = .ok f ↔ e.Becomes (fun p x => test p = .ok x) f
  | .pred p, f => by
    rw [RawExpr.check, map_eq_ok]
    constructor
    · rintro ⟨x, hx, rfl⟩
      exact .pred hx
    · rintro ⟨hx⟩
      exact ⟨_, hx, rfl⟩
  | .not e, f => by
    rw [RawExpr.check, map_eq_ok]
    constructor
    · rintro ⟨x, hx, rfl⟩
      exact .not ((e.check_ok_iff x).1 hx)
    · rintro (_ | h)
      exact ⟨_, (e.check_ok_iff _).2 h, rfl⟩
  | .and es, f => by
    rw [RawExpr.check, map_eq_ok]
    constructor
    · rintro ⟨xs, hxs, rfl⟩
      exact .and ((checkAll_ok_iff es xs).1 hxs)
    · rintro (_ | _ | h)
      exact ⟨_, (checkAll_ok_iff es _).2 h, rfl⟩
  | .or es, f => by
    rw [RawExpr.check, map_eq_ok]
    constructor
    · rintro ⟨xs, hxs, rfl⟩
      exact .or ((checkAll_ok_iff es xs).1 hxs)
    · rintro (_ | _ | _ | h)
      exact ⟨_, (checkAll_ok_iff es _).2 h, rfl⟩

theorem checkAll_ok_iff : ∀ (es : List RawExpr) (fs : List Expr),
    checkAll test es = .ok fs ↔
      List.Forall₂ (RawExpr.Becomes fun p x => test p = .ok x) es fs
  | [], fs => by
    rw [checkAll, List.forall₂_nil_left_iff, Except.ok.injEq, eq_comm]
  | e :: es, fs => by
    rw [checkAll_cons_ok, List.forall₂_cons_left_iff]
    simp only [e.check_ok_iff, checkAll_ok_iff es]
end

/-- A tree is accepted just when each of its predicates is. -/
theorem RawExpr.exists_check_iff (e : RawExpr) :
    (∃ f, e.check test = .ok f) ↔ ∀ p ∈ e.predicates, ∃ x, test p = .ok x := by
  constructor
  · rintro ⟨f, hf⟩
    have hpredicates := e.map_predicates_check test
    rw [hf] at hpredicates
    have hall := (mapM_eq_ok.1 hpredicates.symm).imp fun _ x hx => And.intro (Exists.intro x hx) hx
    exact ((List.forall₂_and_left _ _).1 hall).1
  · intro h
    obtain ⟨xs, hxs⟩ := exists_mapM h
    rw [← e.map_predicates_check, map_eq_ok] at hxs
    obtain ⟨f, hf, -⟩ := hxs
    exact ⟨f, hf⟩

end check

/-- The first of the predicates that are refused is the one that stands leftmost. -/
theorem check_error_iff_leftmost {ε : Type} {test : RawPredicate → Except ε Predicate} {e : RawExpr}
    (h : e.predicates.Pairwise fun p q => p.position < q.position) (fault : ε) :
    e.check test = .error fault ↔ ∃ p ∈ e.predicates, test p = .error fault ∧
      ∀ q ∈ e.predicates, (∃ fault', test q = .error fault') → p.position ≤ q.position := by
  rw [RawExpr.check_error_iff]
  constructor
  · rintro ⟨before, p, after, hsplit, hbefore, hp⟩
    rw [hsplit] at h ⊢
    refine ⟨p, by simp, hp, fun q hq hfault => ?_⟩
    rcases List.mem_append.1 hq with hq | hq
    · obtain ⟨x, hx⟩ := hbefore q hq
      obtain ⟨fault', hfault⟩ := hfault
      rw [hx] at hfault
      cases hfault
    · rcases List.mem_cons.1 hq with rfl | hq
      · exact Nat.le_refl _
      · exact ((List.pairwise_cons.1 (List.pairwise_append.1 h).2.1).1 q hq).le
  · rintro ⟨p, hp, hfault, hleftmost⟩
    obtain ⟨before, after, hsplit⟩ := List.append_of_mem hp
    refine ⟨before, p, after, hsplit, fun q hq => ?_, hfault⟩
    cases hq' : test q with
    | ok x => exact ⟨x, rfl⟩
    | error fault' =>
      -- a predicate before the leftmost one would stand left of it
      have hle := hleftmost q (by rw [hsplit]; exact List.mem_append_left _ hq) ⟨fault', hq'⟩
      rw [hsplit] at h
      have hlt := (List.pairwise_append.1 h).2.2 q hq p List.mem_cons_self
      omega

/-- The check of a tree keeps its shape.  The loop goes over the tree of a query; it has a result for
every such tree or an error.  The result is the tree with each predicate replaced, where it stands, by
its checked form, and there is one just when each predicate is accepted.  The error is that of the
leftmost predicate that is refused. -/
theorem ofRaw_inPlace {query : String} {raw : RawExpr} (h : parseRaw query = .ok raw)
    (clock : Clock) :
    (∀ e, Expr.ofRaw (checkPredicate stack clock) raw = .ok (some e) ↔
      raw.Becomes (fun p x => checkPredicate stack clock p = .ok x) e) ∧
    ((∃ e, Expr.ofRaw (checkPredicate stack clock) raw = .ok (some e)) ↔
      ∀ p ∈ raw.predicates, ∃ x, checkPredicate stack clock p = .ok x) ∧
    (∀ fault, Expr.ofRaw (checkPredicate stack clock) raw = .error fault ↔
      ∃ p ∈ raw.predicates, checkPredicate stack clock p = .error fault ∧
        ∀ q ∈ raw.predicates, (∃ fault', checkPredicate stack clock q = .error fault') →
          p.position ≤ q.position) ∧
    Expr.ofRaw (checkPredicate stack clock) raw ≠ .ok none := by
  obtain ⟨ts, -, hnormal⟩ := normal_of_parseRaw h
  -- the trees of queries are in normal form, so the loop is the check by recursion
  rw [ofRaw_eq_check hnormal]
  have hok : ∀ e, (raw.check (checkPredicate stack clock)).map some = .ok (some e) ↔
      raw.check (checkPredicate stack clock) = .ok e := by
    intro e
    rw [map_eq_ok]
    simp
  refine ⟨fun e => (hok e).trans (raw.check_ok_iff _ e), ?_, fun fault => ?_, ?_⟩
  · simp only [hok]
    exact raw.exists_check_iff _
  · rw [map_eq_error]
    exact check_error_iff_leftmost (pairwise_of_parseRaw h) fault
  · rw [Ne, map_eq_ok]
    simp

set_option maxRecDepth 4000 in
/-- Two predicates that are refused, one of them behind a negation. -/
theorem ofRaw_inPlace_leftmost :
    let p : RawPredicate := ⟨"a", 1, some ⟨"<", 3, ⟨"1", 5, .bare⟩⟩⟩
    let q : RawPredicate := ⟨"b", 10, none⟩
    let raw : RawExpr := .or [.not (.pred p), .pred q]
    let fault := QueryFault.illTyped ⟨.unknownSelector "a", 1, "a"⟩
    let check := checkPredicate (.ofDepth 9) ⟨.fixed 0 0, .fixed 0⟩
    parseRaw "!a < 1 || b" = .ok raw ∧ Expr.ofRaw check raw = .error fault := by
  intro p q raw fault check
  have hraw : parseRaw "!a < 1 || b" = .ok raw := by with_unfolding_all rfl
  have hp : (check p).map (fun _ => ()) = .error fault := by decide +kernel
  have hpredicates : raw.predicates = [p, q] := rfl
  have hleftmost : ∀ r ∈ raw.predicates, p.position ≤ r.position := by
    rw [hpredicates]
    decide
  exact ⟨hraw, ((ofRaw_inPlace hraw _).2.2.1 fault).2
    ⟨p, List.mem_cons_self, map_eq_error.1 hp, fun r hr _ => hleftmost r hr⟩⟩

/-! ## 3. What errors of types blame -/

section blame

variable {α β : Type} {P Q : TypeError → Prop}

/-- A step that fails with an error of types of the given kind only, unless it breaks off. -/
def FailsWith (P : TypeError → Prop) (r : Except QueryFault α) : Prop :=
  ∀ fault, r = .error fault →
    match fault with
    | .malformed _ => False
    | .illTyped e => P e
    | .brokenDown _ => True

namespace FailsWith

theorem ok (a : α) : FailsWith P (.ok a : Except QueryFault α) := nofun

theorem illTyped {e : TypeError} (h : P e) :
    FailsWith P (.error (.illTyped e) : Except QueryFault α) := by
  rintro fault ⟨⟩
  exact h

theorem brokenDown (b : Breakdown) :
    FailsWith P (.error (.brokenDown b) : Except QueryFault α) := by
  rintro fault ⟨⟩
  trivial

theorem bind {r : Except QueryFault α} {f : α → Except QueryFault β} (h : FailsWith P r)
    (hf : ∀ a, FailsWith P (f a)) : FailsWith P (r >>= f) := by
  intro fault hfault
  rcases bind_eq_error.1 hfault with hfault | ⟨a, -, hfault⟩
  · exact h fault hfault
  · exact hf a fault hfault

theorem mapM {f : α → Except QueryFault β} (hf : ∀ a, FailsWith P (f a)) (xs : List α) :
    FailsWith P (xs.mapM f) := by
  intro fault hfault
  obtain ⟨-, x, -, -, -, hx⟩ := mapM_eq_error.1 hfault
  exact hf x fault hx

theorem mono {r : Except QueryFault α} (h : FailsWith P r) (hPQ : ∀ e, P e → Q e) :
    FailsWith Q r := by
  intro fault hfault
  have hP := h fault hfault
  cases fault with
  | malformed => exact hP
  | illTyped e => exact hPQ e hP
  | brokenDown => trivial

end FailsWith

end blame

section value

variable {α : Type} {value : RawValue} {op : Operator}

def TypeError.BlamesValue (value : RawValue) (e : TypeError) : Prop :=
  e.position = value.position ∧ e.cause.kind = .invalidValue

theorem failsWith_refuseValue {cause : TypeCause} (h : cause.kind = .invalidValue) :
    FailsWith (TypeError.BlamesValue value) (refuseValue value cause : Except QueryFault α) :=
  .illTyped ⟨rfl, h⟩

theorem failsWith_checkForm (remedy : String) :
    FailsWith (TypeError.BlamesValue value) (checkForm op value remedy) := by
  unfold checkForm
  split
  · split
    · exact .ok _
    · exact failsWith_refuseValue rfl
  · exact .ok _

theorem failsWith_setMembers : FailsWith (TypeError.BlamesValue value) (setMembers value) := by
  rw [setMembers_eq]
  split
  · exact failsWith_refuseValue rfl
  · exact .ok _

theorem failsWith_acceptLiteral (use : ValueUse) (text : String) (r : Except LiteralFault α) :
    FailsWith (TypeError.BlamesValue value) (acceptLiteral use value text r) := by
  unfold acceptLiteral
  split
  · exact .ok _
  · split
    · exact failsWith_refuseValue rfl
    · exact .brokenDown _

theorem failsWith_acceptPattern (r : Except Pattern.Fault α) :
    FailsWith (TypeError.BlamesValue value) (acceptPattern value r) := by
  unfold acceptPattern
  split
  · exact .ok _
  · split
    · exact failsWith_refuseValue rfl
    · exact .brokenDown _

theorem failsWith_checkFileType (text : String) :
    FailsWith (TypeError.BlamesValue value) (checkFileType value text) := by
  unfold checkFileType
  split
  · exact .ok _
  · exact .illTyped ⟨rfl, rfl⟩

theorem failsWith_checkText : FailsWith (TypeError.BlamesValue value) (checkText stack op value) := by
  unfold checkText
  split
  · exact failsWith_setMembers.bind fun _ => .ok _
  · exact (failsWith_acceptPattern _).bind fun _ => .ok _
  · exact .ok _
  · exact .ok _

theorem failsWith_checkNumber (read : String → Except LiteralFault Nat) :
    FailsWith (TypeError.BlamesValue value) (checkNumber read op value) := by
  have hone : ∀ text, FailsWith (TypeError.BlamesValue value)
      (acceptLiteral .number value text (read text)) :=
    fun text => failsWith_acceptLiteral .number text _
  unfold checkNumber
  split
  · exact failsWith_setMembers.bind fun _ => (FailsWith.mapM hone _).bind fun _ => .ok _
  · exact (hone _).bind fun _ => .ok _

theorem failsWith_checkKind : FailsWith (TypeError.BlamesValue value) (checkKind op value) := by
  unfold checkKind
  split
  · exact failsWith_setMembers.bind fun _ =>
      (FailsWith.mapM failsWith_checkFileType _).bind fun _ => .ok _
  · exact (failsWith_checkFileType _).bind fun _ => .ok _

theorem failsWith_checkContent :
    FailsWith (TypeError.BlamesValue value) (checkContent stack op value) := by
  unfold checkContent
  split
  · exact .ok _
  · exact failsWith_acceptPattern _
  · exact failsWith_refuseValue rfl

theorem failsWith_checkValue (clock : Clock) (selector : Selector) :
    FailsWith (TypeError.BlamesValue value) (checkValue stack clock selector op value) := by
  refine (failsWith_checkForm _).bind fun _ => ?_
  split
  · exact failsWith_checkText
  · exact failsWith_checkNumber _
  · exact (failsWith_acceptLiteral _ _ _).bind fun _ => .ok _
  · exact failsWith_checkKind
  · exact failsWith_checkContent

theorem failsWith_membersFor : FailsWith (TypeError.BlamesValue value) (membersFor op value) := by
  unfold membersFor
  split
  · exact failsWith_setMembers
  · exact .ok _

theorem failsWith_acceptMatcher (r : Except Document.MatcherFault Document.Matcher) :
    FailsWith (TypeError.BlamesValue value) (acceptMatcher value r) := by
  unfold acceptMatcher
  split
  · exact .ok _
  · split
    · exact .brokenDown _
    · exact failsWith_refuseValue rfl

end value

/-- What an error of types points at in a predicate: the selector, the format or the path in it, the
operator, or the value. -/
inductive RawPredicate.Blames (p : RawPredicate) : TypeError → Prop
  | selector {cause : TypeCause} : cause.kind ∈ [.unknownSelector, .unknownAlias] →
      Blames p ⟨cause, p.position, p.selector⟩
  | format {front : String} {rest : List Char} : p.selector.toList = front.toList ++ rest →
      Blames p ⟨.unknownFormat front, p.position, front⟩
  | path {front text : String} {cause : Document.PathCause} {place : Nat} :
      p.selector = front ++ ":" ++ text → ':' ∉ front.toList → place ≤ text.length →
      Blames p ⟨.invalidPath text cause place, p.position + front.length + 1 + place, text⟩
  | operator {c : RawComparison} {cause : TypeCause} : p.comparison = some c →
      cause.kind ∈ [.unknownOperator, .incompatibleOperator] →
      Blames p ⟨cause, c.operatorPosition, c.operator⟩
  | value {c : RawComparison} {e : TypeError} : p.comparison = some c → e.BlamesValue c.value →
      Blames p e

section predicate

variable {p : RawPredicate} {c : RawComparison}

theorem eq_append_splitColon {word : String} (h : ':' ∈ word.toList) :
    word = (splitColon word).1 ++ ":" ++ (splitColon word).2 ∧
      ':' ∉ (splitColon word).1.toList := by
  obtain ⟨front, rest, hword, hfront⟩ := List.eq_append_cons_of_mem h
  have heq : word = String.ofList front ++ ":" ++ String.ofList rest := by
    rw [← String.toList_inj, hword]
    simp
  rw [← String.toList_ofList (l := front)] at hfront
  have hsplit := splitColon_append hfront (String.ofList rest)
  rw [← heq] at hsplit
  rw [hsplit]
  exact ⟨heq, hfront⟩

theorem failsWith_checkOperator (hc : p.comparison = some c) (family : Family) (selector : String) :
    FailsWith p.Blames (checkOperator c family selector) := by
  unfold checkOperator
  dsimp only
  split
  · exact .ok _
  · refine .illTyped (.operator hc ?_)
    split
    · exact List.mem_cons_of_mem _ List.mem_cons_self
    · exact List.mem_cons_self

theorem failsWith_checkComparison (hc : p.comparison = some c) (front : String)
    (format : Document.Format) (path : Document.Path) :
    FailsWith p.Blames (checkComparison stack front format path c) := by
  have hvalue : ∀ e, e.BlamesValue c.value → p.Blames e := fun _ => .value hc
  refine (failsWith_checkOperator hc _ _).bind fun op => ?_
  refine ((failsWith_checkForm _).mono hvalue).bind fun _ => ?_
  refine (failsWith_membersFor.mono hvalue).bind fun items => ?_
  exact ((failsWith_acceptMatcher _).mono hvalue).bind fun _ => .ok _

theorem failsWith_checkDocument (hcolon : ':' ∈ p.selector.toList) :
    FailsWith p.Blames (checkDocument stack p) := by
  obtain ⟨hselector, hfront⟩ := eq_append_splitColon hcolon
  rw [checkDocument_eq]
  -- the format, the path and the comparison, in this order; each blames its own part
  refine FailsWith.bind ?_ fun format => FailsWith.bind ?_ fun path => ?_
  · unfold checkFormat
    split
    · exact .ok _
    · have hfront : p.selector.toList =
          (splitColon p.selector).1.toList ++ ':' :: (splitColon p.selector).2.toList := by
        conv_lhs => rw [hselector]
        simp
      exact .illTyped (.format hfront)
  · unfold checkPath
    split
    · exact .ok _
    · next hread =>
      exact .illTyped (.path hselector hfront (Document.refusedWithin_read _ _ _ hread))
    · exact .brokenDown _
  · split
    · exact .ok _
    · next c hc => exact failsWith_checkComparison hc _ _ _

theorem failsWith_checkWord (p : RawPredicate) : FailsWith p.Blames (checkWord stack p) := by
  unfold checkWord
  dsimp only
  split
  · next hcolon => exact failsWith_checkDocument (by simpa using hcolon)
  · split
    · exact .ok _
    · split
      · exact .ok _
      · refine .illTyped (.selector ?_)
        split <;> exact List.mem_cons_of_mem _ List.mem_cons_self

/-- An error of types in a predicate points at a part of it. -/
theorem failsWith_checkPredicate (clock : Clock) (p : RawPredicate) :
    FailsWith p.Blames (checkPredicate stack clock p) := by
  unfold checkPredicate
  split
  · exact failsWith_checkWord p
  · next c hc =>
    split
    · next hcolon => exact failsWith_checkDocument (by simpa using hcolon)
    · split
      · exact .illTyped (.selector List.mem_cons_self)
      · next selector _ =>
        refine (failsWith_checkOperator hc _ _).bind fun op => ?_
        exact ((failsWith_checkValue clock selector).mono fun _ => .value hc).bind fun _ => .ok _

end predicate

/-! ## 4. Errors point into the query -/

/-- An error of types points into a query with the given tokens.  A selector, a format and an operator
that are not known stand in the query where the error points; a path stands in the query behind the
first colon of a word, and the error points at a character of it or at its end. -/
structure TypeError.PointsInto (query : String) (ts : List Token) (e : TypeError) : Prop where
  position : e.position ≤ query.length
  token : e.cause.kind ∈ [.unknownSelector, .unknownFormat, .unknownOperator, .incompatibleOperator,
    .unknownAlias] → e.token.toList <+: query.toList.drop e.position
  path : e.cause.kind = .invalidPath → ∃ front start, ⟨.word (front ++ ":" ++ e.token), start⟩ ∈ ts ∧
    (front ++ ":" ++ e.token).toList <+: query.toList.drop start ∧ ':' ∉ front.toList ∧
    start + front.length + 1 ≤ e.position ∧
    e.position ≤ start + front.length + 1 + e.token.length

/-- The tokens of a comparison stand among those of the query that its predicate does. -/
theorem mem_of_tokens_subset {ts : List Token} {p : RawPredicate} {c : RawComparison}
    (hp : p.tokens ⊆ ts) (hc : p.comparison = some c) :
    ⟨.word c.operator, c.operatorPosition⟩ ∈ ts ∧ c.value.token ∈ ts := by
  have htokens : p.tokens =
      [⟨.word p.selector, p.position⟩, ⟨.word c.operator, c.operatorPosition⟩, c.value.token] := by
    rw [RawPredicate.tokens, hc]
  rw [htokens] at hp
  exact ⟨hp (by simp), hp (by simp)⟩

theorem RawPredicate.Blames.pointsInto {query : String} {ts : List Token} {p : RawPredicate}
    {e : TypeError} (h : p.Blames e) (hts : tokenize query = .ok ts) (hp : p.tokens ⊆ ts) :
    e.PointsInto query ts := by
  have hword : ⟨.word p.selector, p.position⟩ ∈ ts := hp List.mem_cons_self
  have hprefix := prefix_of_word hts hword
  have hposition : p.position ≤ query.length := position_le_of_tokenize hts hword
  cases h with
  | selector hkind =>
    refine ⟨hposition, fun _ => hprefix, fun hpath => ?_⟩
    simp only at hpath
    rw [hpath] at hkind
    simp at hkind
  | format hselector =>
    refine ⟨hposition, fun _ => ?_, nofun⟩
    rw [hselector] at hprefix
    exact (List.prefix_append _ _).trans hprefix
  | @path front text _ place hselector hfront hplace =>
    -- the selector ends in the query, and the path with it
    have hlength : p.position + p.selector.length ≤ query.length := by
      have hle := hprefix.length_le
      rw [List.length_drop, String.length_toList, String.length_toList] at hle
      omega
    rw [hselector] at hlength hprefix hword
    simp only [String.length_append] at hlength
    refine ⟨?_, fun hkind => ?_, fun _ => ⟨front, p.position, hword, hprefix, hfront, ?_, ?_⟩⟩
    · have hcolon : ":".length = 1 := rfl
      simp only
      omega
    · simp [TypeCause.kind] at hkind
    · exact Nat.le_add_right _ _
    · exact Nat.add_le_add_left hplace _
  | operator hc hkind =>
    obtain ⟨hoperator, -⟩ := mem_of_tokens_subset hp hc
    refine ⟨position_le_of_tokenize hts hoperator, fun _ => prefix_of_word hts hoperator,
      fun hpath => ?_⟩
    simp only at hpath
    rw [hpath] at hkind
    simp at hkind
  | value hc hvalue' =>
    obtain ⟨hplace, hkind⟩ := hvalue'
    obtain ⟨-, hvalue⟩ := mem_of_tokens_subset hp hc
    have hle := position_le_of_tokenize hts hvalue
    refine ⟨?_, fun htoken => ?_, fun hpath => ?_⟩
    · rwa [hplace, ← RawValue.position_token]
    · rw [hkind] at htoken
      simp at htoken
    · rw [hkind] at hpath
      cases hpath

theorem position_le_of_parseRaw {query : String} {e : SyntaxError}
    (h : parseRaw query = .error e) : e.position ≤ query.length := by
  cases hts : tokenize query with
  | error e' =>
    have h' : parseRaw query = .error e' := by rw [parseRaw, hts]; rfl
    cases h.symm.trans h'
    have hhigh := (scanTokens_between 0 query.toList e hts).2
    rwa [Nat.zero_add, String.length_toList] at hhigh
  | ok ts =>
    obtain ⟨t, ht, hposition⟩ := (stopsAt_of_parseRaw hts h).mem
    exact hposition ▸ position_le_of_tokenize hts ht

/-- Errors of queries point at the text that they are about.  An error of syntax points at a character of
the query or at its end, and so does an error of types; a selector, a format or an operator that an
error of types is about stands where the error points, and a path stands behind the first colon of its
word, and the error points into it or at its end. -/
theorem parse_error_pointsInto (clock : Clock) (query : String) :
    (∀ e, parse stack clock query = .error (.malformed e) → e.position ≤ query.length) ∧
    ∀ e, parse stack clock query = .error (.illTyped e) →
      ∃ ts, tokenize query = .ok ts ∧ e.PointsInto query ts := by
  rw [parse_eq]
  cases hraw : parseRaw query with
  | error e' =>
    refine ⟨fun e he => ?_, nofun⟩
    cases he
    exact position_le_of_parseRaw hraw
  | ok raw =>
    obtain ⟨ts, hts, hsub⟩ := sublist_of_parseRaw hraw
    -- each error of the check is the error of a predicate, whose tokens are in the query
    have hcheck : ∀ fault, raw.check (checkPredicate stack clock) = .error fault →
        ∃ p, p.tokens ⊆ ts ∧ checkPredicate stack clock p = .error fault := by
      intro fault hfault
      obtain ⟨before, p, after, hsplit, -, hp⟩ := (RawExpr.check_error_iff _).1 hfault
      refine ⟨p, fun t ht => hsub.subset (List.mem_flatMap.2 ⟨p, ?_, ht⟩), hp⟩
      rw [hsplit]
      exact List.mem_append_right _ List.mem_cons_self
    refine ⟨fun e he => ?_, fun e he => ⟨ts, hts, ?_⟩⟩
    · obtain ⟨p, -, hp⟩ := hcheck _ he
      exact (failsWith_checkPredicate clock p _ hp).elim
    · obtain ⟨p, htokens, hp⟩ := hcheck _ he
      have hblames : p.Blames e := failsWith_checkPredicate clock p _ hp
      exact hblames.pointsInto hts htokens

/-- A path that breaks off, with characters before it and in it that take two bytes. -/
theorem parse_error_pointsInto_path :
    let query := "name == \"é\" && yaml:.größe."
    let e : TypeError := ⟨.invalidPath ".größe." .missingName 7, 27, ".größe."⟩
    let clock : Clock := ⟨.fixed 0 0, .fixed 0⟩
    parse (.ofDepth 9) clock query = .error (.illTyped e) ∧ query.length = 27 ∧
      ∃ ts, tokenize query = .ok ts ∧ e.PointsInto query ts := by
  intro query e clock
  have hfault : (parse (.ofDepth 9) clock query).map (fun _ => ()) = .error (.illTyped e) := by
    decide +kernel
  have herror := map_eq_error.1 hfault
  exact ⟨herror, by decide, (parse_error_pointsInto clock query).2 e herror⟩

end FileQuery.Query
