import FileQuery.Proofs.Query.Traversal

/-!
# Typed predicates

The predicates of a query that was read have an operator and a value that go with their selectors.
Everything that is later done with them rests on the rules below, one for each kind of value.
-/

namespace FileQuery.Query

variable {stack : Pattern.Stack}

/-! ## 1. The rules -/

/-- A predicate whose operator and value go with its selector. -/
inductive Predicate.WellTyped : Predicate → Prop
  | text {selector : Selector} {op : Operator} (s : String) :
      selector.family = .string → op ∈ [.eq, .ne, .contains] →
      WellTyped ⟨selector, some op, .text s⟩
  | texts {selector : Selector} (items : List String) :
      selector.family = .string → WellTyped ⟨selector, some .member, .texts items⟩
  | pattern {selector : Selector} {op : Operator} (p : Pattern) :
      selector.family = .string → op ∈ [.matching, .glob] →
      WellTyped ⟨selector, some op, .pattern p⟩
  | number {selector : Selector} {op : Operator} (n : Nat) :
      selector.family = .numeric → op ∈ [.eq, .ne, .gt, .ge, .lt, .le] →
      WellTyped ⟨selector, some op, .number n⟩
  | numbers {selector : Selector} (items : List Nat) :
      selector.family = .numeric → WellTyped ⟨selector, some .member, .numbers items⟩
  | fileType {op : Operator} (t : FileType) :
      op ∈ [.eq, .ne] → WellTyped ⟨.type, some op, .fileType t⟩
  | fileTypes (items : List FileType) : WellTyped ⟨.type, some .member, .fileTypes items⟩
  | moment {selector : Selector} {op : Operator} (m : Calendar.PlacedMoment) :
      selector.family = .temporal → op ∈ [.eq, .ne, .gt, .ge, .lt, .le] →
      WellTyped ⟨selector, some op, .moment m⟩
  | content {op : Operator} (m : Content.Matcher) :
      WellTyped ⟨.content, some op, .content m⟩
  | document {op : Option Operator} (m : Document.Matcher) :
      WellTyped ⟨.document m.format, op, .document m⟩

theorem Selector.family_of_structured {selector : Selector} (h : selector.category = .structured) :
    selector.family = .structured := by
  cases selector with
  | document format => rfl
  | _ => cases h

theorem Selector.family_of_content {selector : Selector} (h : selector.category = .content) :
    selector.family = .content := by
  cases selector with
  | content => rfl
  | _ => cases h

/-- A predicate on documents has a condition on documents. -/
theorem Predicate.WellTyped.exists_document {p : Predicate} (hp : p.WellTyped)
    (h : p.category = .structured) : ∃ m, p.operand = .document m := by
  have hfamily := Selector.family_of_structured h
  cases hp with
  | document m => exact ⟨m, rfl⟩
  | fileType | fileTypes | content => cases h
  | text s hselector | texts items hselector | pattern q hselector | number n hselector
  | numbers items hselector | moment m hselector =>
    rw [hselector] at hfamily
    cases hfamily

/-- A predicate on content has a condition on content. -/
theorem Predicate.WellTyped.exists_content {p : Predicate} (hp : p.WellTyped)
    (h : p.category = .content) : ∃ m, p.operand = .content m := by
  have hfamily := Selector.family_of_content h
  cases hp with
  | content m => exact ⟨m, rfl⟩
  | fileType | fileTypes | document => cases h
  | text s hselector | texts items hselector | pattern q hselector | number n hselector
  | numbers items hselector | moment m hselector =>
    rw [hselector] at hfamily
    cases hfamily

/-! ## 2. Looking up operators -/

theorem mem_of_lookup {α β : Type} [BEq α] [LawfulBEq α] {table : List (α × β)} {k : α} {v : β}
    (h : table.lookup k = some v) : v ∈ table.map Prod.snd := by
  obtain ⟨front, back, rfl, -⟩ := List.lookup_eq_some_iff.1 h
  simp

theorem mem_operatorTable {c : RawComparison} {family : Family} {selector : String} {op : Operator}
    (h : checkOperator c family selector = .ok op) :
    op ∈ (operatorTable family).map Prod.snd := by
  unfold checkOperator at h
  dsimp only at h
  split at h
  · next op' hlookup =>
    cases h
    exact mem_of_lookup hlookup
  · cases h

theorem string_operators : ∀ op ∈ (operatorTable .string).map Prod.snd,
    op ∈ [.eq, .ne, .contains] ∨ op = .member ∨ op ∈ [.matching, .glob] := by
  decide

theorem numeric_operators : ∀ op ∈ (operatorTable .numeric).map Prod.snd,
    op = .member ∨ op ∈ [.eq, .ne, .gt, .ge, .lt, .le] := by
  decide

theorem temporal_operators : ∀ op ∈ (operatorTable .temporal).map Prod.snd,
    op ∈ [.eq, .ne, .gt, .ge, .lt, .le] := by
  decide

theorem enum_operators : ∀ op ∈ (operatorTable .enum).map Prod.snd,
    op = .member ∨ op ∈ [.eq, .ne] := by
  decide

/-! ## 3. Checked predicates -/

section values

variable {clock : Clock} {selector : Selector} {op : Operator} {value : RawValue}
  {operand : Operand}

theorem wellTyped_of_checkText (hselector : selector.family = .string)
    (hop : op ∈ (operatorTable .string).map Prod.snd) (h : checkText stack op value = .ok operand) :
    Predicate.WellTyped ⟨selector, some op, operand⟩ := by
  have hops := string_operators op hop
  cases op with
  | member =>
    obtain ⟨items, -, h⟩ := bind_eq_ok.1 h
    cases h
    exact .texts _ hselector
  | matching =>
    obtain ⟨p, -, h⟩ := bind_eq_ok.1 h
    cases h
    exact .pattern p hselector (by decide)
  | glob =>
    cases h
    exact .pattern _ hselector (by decide)
  | _ =>
    cases h
    exact .text _ hselector (hops.resolve_right (by decide))

theorem wellTyped_of_checkNumber {read : String → Except LiteralFault Nat}
    (hselector : selector.family = .numeric) (hop : op ∈ (operatorTable .numeric).map Prod.snd)
    (h : checkNumber read op value = .ok operand) :
    Predicate.WellTyped ⟨selector, some op, operand⟩ := by
  have hops := numeric_operators op hop
  cases op with
  | member =>
    obtain ⟨items, -, h⟩ := bind_eq_ok.1 h
    obtain ⟨ns, -, h⟩ := bind_eq_ok.1 h
    cases h
    exact .numbers _ hselector
  | _ =>
    obtain ⟨n, -, h⟩ := bind_eq_ok.1 h
    cases h
    exact .number n hselector (hops.resolve_left (by decide))

theorem wellTyped_of_checkKind (hop : op ∈ (operatorTable .enum).map Prod.snd)
    (h : checkKind op value = .ok operand) : Predicate.WellTyped ⟨.type, some op, operand⟩ := by
  have hops := enum_operators op hop
  cases op with
  | member =>
    obtain ⟨items, -, h⟩ := bind_eq_ok.1 h
    obtain ⟨ts, -, h⟩ := bind_eq_ok.1 h
    cases h
    exact .fileTypes _
  | _ =>
    obtain ⟨t, -, h⟩ := bind_eq_ok.1 h
    cases h
    exact .fileType t (hops.resolve_left (by decide))

theorem wellTyped_of_checkContent (h : checkContent stack op value = .ok operand) :
    Predicate.WellTyped ⟨.content, some op, operand⟩ := by
  unfold checkContent at h
  split at h
  · cases h
    exact .content _
  · unfold acceptPattern at h
    split at h
    · next hok => cases hok
    · split at h <;> cases h
  · cases h

theorem wellTyped_of_checkValue (hdocument : ∀ format, selector ≠ .document format)
    (hop : op ∈ (operatorTable selector.family).map Prod.snd)
    (h : checkValue stack clock selector op value = .ok operand) :
    Predicate.WellTyped ⟨selector, some op, operand⟩ := by
  obtain ⟨_, -, h⟩ := bind_eq_ok.1 h
  cases hfamily : selector.family with
  | string =>
    rw [hfamily] at hop h
    exact wellTyped_of_checkText hfamily hop h
  | numeric =>
    rw [hfamily] at hop h
    exact wellTyped_of_checkNumber hfamily hop h
  | temporal =>
    rw [hfamily] at hop h
    obtain ⟨m, -, h⟩ := bind_eq_ok.1 h
    cases h
    exact .moment m hfamily (temporal_operators op hop)
  | enum =>
    rw [hfamily] at hop h
    cases selector <;> cases hfamily
    exact wellTyped_of_checkKind hop h
  | content =>
    rw [hfamily] at h
    cases selector <;> cases hfamily
    exact wellTyped_of_checkContent h
  | structured =>
    cases selector <;> cases hfamily
    exact absurd rfl (hdocument _)

end values

theorem frame_of_compile {format : Document.Format} {path : Document.Path} {op : Option Operator}
    {text : String} {isQuoted : Bool} {items : List String} {m : Document.Matcher}
    (h : Document.Matcher.compile stack format path op text isQuoted items = .ok m) :
    m.format = format ∧ m.path = path := by
  -- with no operator, for a set, and for a single literal
  unfold Document.Matcher.compile at h
  split at h
  · cases h
    exact ⟨rfl, rfl⟩
  · obtain ⟨members, -, h⟩ := bind_eq_ok.1 h
    split at h
    · cases h
    · cases h
      exact ⟨rfl, rfl⟩
  · obtain ⟨literal, -, h⟩ := bind_eq_ok.1 h
    obtain ⟨_, -, h⟩ := bind_eq_ok.1 h
    split at h
    · obtain ⟨p, -, h⟩ := bind_eq_ok.1 h
      cases h
      exact ⟨rfl, rfl⟩
    · cases h
      exact ⟨rfl, rfl⟩

theorem wellTyped_of_checkComparison {front : String} {format : Document.Format}
    {path : Document.Path} {c : RawComparison} {p : Predicate}
    (h : checkComparison stack front format path c = .ok p) : p.WellTyped := by
  obtain ⟨op, -, h⟩ := bind_eq_ok.1 h
  obtain ⟨_, -, h⟩ := bind_eq_ok.1 h
  obtain ⟨items, -, h⟩ := bind_eq_ok.1 h
  obtain ⟨m, hm, h⟩ := bind_eq_ok.1 h
  cases h
  unfold acceptMatcher at hm
  split at hm
  · next m' hcompile =>
    cases hm
    rw [← (frame_of_compile hcompile).1]
    exact .document m
  · split at hm <;> cases hm

theorem wellTyped_of_checkDocument {raw : RawPredicate} {p : Predicate}
    (h : checkDocument stack raw = .ok p) : p.WellTyped := by
  obtain ⟨format, -, h⟩ := bind_eq_ok.1 h
  obtain ⟨path, -, h⟩ := bind_eq_ok.1 h
  split at h
  · cases h
    exact .document ⟨format, path, .exists⟩
  · exact wellTyped_of_checkComparison h

theorem wellTyped_of_checkWord {raw : RawPredicate} {p : Predicate} (h : checkWord stack raw = .ok p) :
    p.WellTyped := by
  unfold checkWord at h
  dsimp only at h
  split at h
  · exact wellTyped_of_checkDocument h
  · split at h
    · cases h
      exact .fileType _ (by decide)
    · split at h
      · cases h
        split
        · exact .pattern _ rfl (by decide)
        · exact .pattern _ rfl (by decide)
      · cases h

theorem selector_ne_document : ∀ selector ∈ selectorTable.map Prod.snd,
    ∀ format, selector ≠ .document format := by
  intro selector h format hdocument
  subst hdocument
  cases format <;> revert h <;> decide

theorem wellTyped_of_checkPredicate {clock : Clock} {raw : RawPredicate} {p : Predicate}
    (h : checkPredicate stack clock raw = .ok p) : p.WellTyped := by
  unfold checkPredicate at h
  split at h
  · exact wellTyped_of_checkWord h
  · split at h
    · exact wellTyped_of_checkDocument h
    · split at h
      · cases h
      · next selector hselector =>
        obtain ⟨op, hop, h⟩ := bind_eq_ok.1 h
        obtain ⟨operand, hoperand, h⟩ := bind_eq_ok.1 h
        cases h
        exact wellTyped_of_checkValue (selector_ne_document selector (mem_of_lookup hselector))
          (mem_operatorTable hop) hoperand

/-! ## 4. Checked trees -/

mutual
theorem forall_of_check {ε : Type} {test : RawPredicate → Except ε Predicate} {P : Predicate → Prop}
    (htest : ∀ raw p, test raw = .ok p → P p) :
    ∀ {raw : RawExpr} {e : Expr}, raw.check test = .ok e → ∀ p ∈ e.predicates, P p
  | .pred raw, e, h => by
    obtain ⟨p, hp, rfl⟩ := map_eq_ok.1 h
    simpa [Expr.predicates] using htest raw p hp
  | .not raw, e, h => by
    obtain ⟨e', he, rfl⟩ := map_eq_ok.1 h
    have hoperand := forall_of_check htest he
    exact hoperand
  | .and raws, e, h => by
    obtain ⟨es, hes, rfl⟩ := map_eq_ok.1 h
    exact forall_of_checkAll htest hes
  | .or raws, e, h => by
    obtain ⟨es, hes, rfl⟩ := map_eq_ok.1 h
    exact forall_of_checkAll htest hes

theorem forall_of_checkAll {ε : Type} {test : RawPredicate → Except ε Predicate}
    {P : Predicate → Prop} (htest : ∀ raw p, test raw = .ok p → P p) :
    ∀ {raws : List RawExpr} {es : List Expr}, checkAll test raws = .ok es →
    ∀ p ∈ predicatesOf es, P p
  | [], es, h => by
    cases h
    simp [predicatesOf]
  | raw :: raws, es, h => by
    rw [checkAll] at h
    split at h
    · cases h
    · next e he =>
      split at h
      · cases h
      · next fs hfs =>
        cases h
        intro p hp
        rcases List.mem_append.1 hp with hp | hp
        · exact forall_of_check htest he p hp
        · exact forall_of_checkAll htest hfs p hp
end

theorem wellTyped_of_parse {clock : Clock} {query : String} {e : Expr}
    (h : parse stack clock query = .ok e) : ∀ p ∈ e.predicates, p.WellTyped := by
  rw [parse_eq] at h
  split at h
  · cases h
  · exact forall_of_check (fun raw p => wellTyped_of_checkPredicate) h

end FileQuery.Query
