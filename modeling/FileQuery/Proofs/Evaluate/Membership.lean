import FileQuery.Proofs.Evaluate.Alternatives
import FileQuery.Proofs.Query.Breakdown
import FileQuery.Proofs.Query.Rechecking
import FileQuery.Proofs.Query.Sets

/-!
# Membership as alternatives

To be in a set is to be equal to one of its members.  Texts, numbers and kinds are looked up in a
set of what was read, while values of documents are compared with one literal after the other; in
either case the query with the set and the query that asks for one member after the other have the
same evaluation, also where there is nothing to compare.
-/

namespace FileQuery.Document

/-! ## 1. Going through alternatives -/

section anyOk

variable {α β ε : Type} {xs : List α}

theorem anyOk_singleton (test : α → Except ε Bool) (x : α) : anyOk test [x] = test x := by
  rw [anyOk_cons]
  rcases test x with fault | (_ | _) <;> rfl

theorem anyOk_map (test : β → Except ε Bool) (f : α → β) (xs : List α) :
    anyOk test (xs.map f) = anyOk (fun x => test (f x)) xs := by
  induction xs with
  | nil => rfl
  | cons x xs ih => rw [List.map_cons, anyOk_cons, anyOk_cons, ih]

theorem anyOk_ok (f : α → Bool) (xs : List α) :
    anyOk (fun x => (.ok (f x) : Except ε Bool)) xs = .ok (xs.any f) := by
  induction xs with
  | nil => rfl
  | cons x xs ih =>
    rw [anyOk_cons, ih, List.any_cons]
    cases f x <;> rfl

/-- A step that all tests begin with is made once, if there are tests at all. -/
theorem anyOk_bind (source : Except ε β) (test : α → β → Except ε Bool) (hne : xs ≠ []) :
    anyOk (fun x => source >>= test x) xs = source >>= fun y => anyOk (test · y) xs := by
  cases source with
  | error fault =>
    obtain ⟨x, xs, rfl⟩ := List.exists_cons_of_ne_nil hne
    rfl
  | ok y => rfl

end anyOk

/-- Some value is in a set just when, for a member of the set, some value is equal to it: the values
are gone through first on one side, and the members on the other. -/
theorem exists_holds_member (limit : TextLimit) (format : Format) (path : Path) (members : List Literal)
    {documents : List Root}
    (htexts : ∀ root ∈ documents, ∀ v ∈ navigate root path,
      ∃ text, textOf limit root.store v = .ok text) :
    ∃ equal : Literal → Bool,
      (∀ l, Matcher.holds limit ⟨format, path, .compare .eq l⟩ documents = .ok (equal l)) ∧
        Matcher.holds limit ⟨format, path, .member members⟩ documents =
          .ok (members.any equal) := by
  have hequals : ∀ root ∈ documents, ∀ v ∈ navigate root path, ∀ l : Literal,
      ∃ b, l.equals limit root.store v = .ok b ∧
        (b = true ↔ l.equals limit root.store v = .ok true) := by
    intro root hroot v hv l
    obtain ⟨b, hb⟩ := l.exists_equals (htexts root hroot v hv)
    exact ⟨b, hb, by rw [hb, Except.ok.injEq]⟩
  have hone : ∀ l : Literal,
      ∃ b, Matcher.holds limit ⟨format, path, .compare .eq l⟩ documents = .ok b ∧
        (b = true ↔ ∃ root ∈ documents, ∃ v ∈ navigate root path,
          l.equals limit root.store v = .ok true) := by
    intro l
    rw [Matcher.holds_eq]
    exact exists_anyOk_iff _ fun root hroot =>
      exists_anyOk_iff ((Condition.compare .eq l).holds limit root.store) fun v hv =>
        hequals root hroot v hv l
  have hvalue : ∀ root ∈ documents, ∀ v ∈ navigate root path,
      ∃ b, (Condition.member members).holds limit root.store v = .ok b ∧
        (b = true ↔ ∃ l ∈ members, l.equals limit root.store v = .ok true) := by
    intro root hroot v hv
    exact exists_anyOk_iff (fun l : Literal => l.equals limit root.store v) fun l _ =>
      hequals root hroot v hv l
  -- both answers exist, so it is enough that they are true of the same values and members
  choose equal hequal hiff using hone
  obtain ⟨b, hb, hset⟩ := exists_anyOk_iff _ fun root hroot =>
    exists_anyOk_iff ((Condition.member members).holds limit root.store) (hvalue root hroot)
  refine ⟨equal, hequal, ?_⟩
  rw [Matcher.holds_eq, hb, Except.ok.injEq, Bool.eq_iff_iff, hset, List.any_eq_true]
  constructor
  · rintro ⟨root, hroot, v, hv, l, hl, h⟩
    exact ⟨l, hl, (hiff l).2 ⟨root, hroot, v, hv, h⟩⟩
  · rintro ⟨l, hl, h⟩
    obtain ⟨root, hroot, v, hv, h⟩ := (hiff l).1 h
    exact ⟨root, hroot, v, hv, l, hl, h⟩

end FileQuery.Document

namespace FileQuery.Query

open Document (anyOk anyOk_singleton anyOk_map anyOk_ok anyOk_bind)

/-! ## 2. A set and its members -/

/-- A predicate that asks for membership, and those that ask for equality with one member each. -/
inductive Predicate.Splits : Predicate → List Predicate → Prop
  | texts {selector : Selector} {items : List String} : selector.family = .string → items ≠ [] →
      Splits ⟨selector, some .member, .texts (asSet quote items)⟩
        (items.map fun s => ⟨selector, some .eq, .text s⟩)
  | numbers {selector : Selector} {items : List Nat} : selector.family = .numeric → items ≠ [] →
      Splits ⟨selector, some .member, .numbers (asSet toString items)⟩
        (items.map fun n => ⟨selector, some .eq, .number n⟩)
  | fileTypes {items : List FileType} : items ≠ [] →
      Splits ⟨.type, some .member, .fileTypes (asSet FileType.name items)⟩
        (items.map fun t => ⟨.type, some .eq, .fileType t⟩)
  | document (format : Document.Format) (path : Document.Path) {members : List Document.Literal} :
      members ≠ [] →
      Splits ⟨.document format, some .member, .document ⟨format, path, .member members⟩⟩
        (members.map fun l =>
          ⟨.document format, some .eq, .document ⟨format, path, .compare .eq l⟩⟩)

section answers

variable {setting : Setting} {entity : Entity} {p : Predicate} {qs : List Predicate}

/-! ### Lookups -/

theorem contains_asSet {α : Type} [BEq α] [LawfulBEq α] (text : α → String) (items : List α)
    (x : α) :
    (asSet text items).contains x = items.any (x == ·) := by
  rw [Bool.eq_iff_iff, List.contains_iff_mem, mem_asSet, List.any_eq_true]
  simp

/-- Looking a value up in a set is comparing it with the members. -/
theorem test_eq_of_lookup {α ε : Type} [BEq α] [LawfulBEq α] {test : Predicate → Except ε Bool}
    {text : α → String} {items : List α} {one : α → Predicate} (x : α)
    (hset : test p = .ok ((asSet text items).contains x))
    (hone : ∀ item, test (one item) = .ok (x == item)) : test p = anyOk test (items.map one) := by
  rw [hset, contains_asSet, anyOk_map, Document.anyOk_congr _ fun item _ => hone item, anyOk_ok]

def textTest (s : String) : Predicate → Except EvaluationFault Bool :=
  testOf fun q => comparisonAnswer (compareText q.op q.operand s)

def numberTest (n : Nat) : Predicate → Except EvaluationFault Bool :=
  testOf fun q => comparisonAnswer (compareNumber q.op q.operand n)

def typeTest (t : FileType) : Predicate → Except EvaluationFault Bool :=
  testOf fun q => comparisonAnswer (compareType q.op q.operand t)

theorem textTest_member (s : String) (selector : Selector) (items : List String) :
    textTest s ⟨selector, some .member, .texts (asSet quote items)⟩ =
      anyOk (textTest s) (items.map fun t => ⟨selector, some .eq, .text t⟩) :=
  test_eq_of_lookup s rfl fun _ => rfl

theorem numberTest_member (n : Nat) (selector : Selector) (items : List Nat) :
    numberTest n ⟨selector, some .member, .numbers (asSet toString items)⟩ =
      anyOk (numberTest n) (items.map fun k => ⟨selector, some .eq, .number k⟩) := by
  refine test_eq_of_lookup n rfl fun k => ?_
  have hequal : (compare n k == .eq) = (n == k) := by
    rw [Bool.eq_iff_iff, beq_iff_eq, beq_iff_eq, compare_eq_iff_eq]
  exact congrArg Except.ok hequal

theorem typeTest_member (t : FileType) (items : List FileType) :
    typeTest t ⟨.type, some .member, .fileTypes (asSet FileType.name items)⟩ =
      anyOk (typeTest t) (items.map fun u => ⟨.type, some .eq, .fileType u⟩) :=
  test_eq_of_lookup t rfl fun _ => rfl

/-! ### Sources -/

/-- A test that first looks for a value, which may be missing; then it is false. -/
def Tests {ε β : Type} (test : Predicate → Except ε Bool) (source : Except ε (Option β))
    (verdict : β → Predicate → Except ε Bool) (q : Predicate) : Prop :=
  test q = source >>= fun answer => answer.elim (.ok false) (verdict · q)

/-- The value is the same for all predicates, so they may be compared with it one by one. -/
theorem Tests.test_eq {ε β : Type} {test : Predicate → Except ε Bool} {source : Except ε (Option β)}
    {verdict : β → Predicate → Except ε Bool} (hp : Tests test source verdict p)
    (hqs : ∀ q ∈ qs, Tests test source verdict q) (hne : qs ≠ [])
    (h : ∀ x, source = .ok (some x) → verdict x p = anyOk (verdict x) qs) :
    test p = anyOk test qs := by
  rw [hp, Document.anyOk_congr _ hqs, anyOk_bind _ _ hne]
  cases source with
  | error fault => rfl
  | ok answer =>
    cases answer with
    | none =>
      show Except.ok false = anyOk (fun _ => .ok false) qs
      rw [anyOk_ok fun _ => false]
      simp
    | some x => exact h x rfl

theorem exists_nameValue_text {selector : Selector} (h : selector.family = .string)
    (path : String) :
    ∃ s, selector.nameValue? path = some (.text s) := by
  cases selector <;> first | exact ⟨_, rfl⟩ | cases h

theorem tests_text {s : String} (h : p.selector.nameValue? entity.path = some (.text s)) :
    Tests (testOf (nameAnswer entity)) (.ok (some s)) textTest p := by
  rw [Tests, testOf, nameAnswer, h]
  rfl

theorem tests_count {n : Nat} (h : p.selector.nameValue? entity.path = some (.count n)) :
    Tests (testOf (nameAnswer entity)) (.ok (some n)) numberTest p := by
  rw [Tests, testOf, nameAnswer, h]
  rfl

theorem tests_size (h : p.selector = .size) :
    Tests (testOf (metadataAnswer setting entity))
      ((metadataOf entity).map (·.bind Metadata.size)) numberTest p := by
  have hcategory : ¬(p.category != .metadata) = true := by
    simp [Predicate.category, h, Selector.category]
  rw [Tests, testOf, metadataAnswer, if_neg hcategory]
  cases metadataOf entity with
  | error fault => rfl
  | ok answer =>
    cases answer with
    | none => rfl
    | some m =>
      show (metadataVerdict setting p m).map (·.getD false) =
        m.size.elim (.ok false) (numberTest · p)
      unfold metadataVerdict
      rw [h]
      dsimp only
      cases m.size <;> rfl

theorem tests_type (h : p.selector = .type) :
    Tests (testOf (metadataAnswer setting entity))
      ((metadataOf entity).map (·.map Metadata.type)) typeTest p := by
  have hcategory : ¬(p.category != .metadata) = true := by
    simp [Predicate.category, h, Selector.category]
  rw [Tests, testOf, metadataAnswer, if_neg hcategory]
  cases metadataOf entity with
  | error fault => rfl
  | ok answer =>
    cases answer with
    | none => rfl
    | some m =>
      show (metadataVerdict setting p m).map (·.getD false) = typeTest m.type p
      unfold metadataVerdict
      rw [h]
      rfl

def documentTest (setting : Setting) (roots : List Document.Root) :
    Predicate → Except EvaluationFault Bool :=
  fun q =>
    match q.operand with
    | .document m => (documentVerdict setting m roots).map (·.getD false)
    | _ => .ok false

theorem tests_document {m : Document.Matcher} {format : Document.Format}
    (h : p.operand = .document m) (hformat : m.format = format) :
    Tests (testOf (documentAnswer setting entity)) (documentsOf setting entity format)
      (documentTest setting) p := by
  subst hformat
  rw [Tests, testOf, documentAnswer, h]
  dsimp only
  cases documentsOf setting entity m.format with
  | error fault => rfl
  | ok answer =>
    cases answer with
    | none => rfl
    | some roots =>
      show _ = documentTest setting roots p
      unfold documentTest
      rw [h]
      rfl

/-- The values in the documents of an entity that a condition compares have texts. -/
def Entity.Renders (setting : Setting) (entity : Entity) (m : Document.Matcher) : Prop :=
  ∀ roots, documentsOf setting entity m.format = .ok (some roots) → ∀ root ∈ roots,
    ∀ v ∈ Document.navigate root m.path,
      ∃ text, Document.textOf setting.textLimit root.store v = .ok text

theorem documentTest_member (format : Document.Format) (path : Document.Path)
    (members : List Document.Literal) {roots : List Document.Root}
    (htexts : ∀ root ∈ roots, ∀ v ∈ Document.navigate root path,
      ∃ text, Document.textOf setting.textLimit root.store v = .ok text) :
    documentTest setting roots
        ⟨.document format, some .member, .document ⟨format, path, .member members⟩⟩ =
      anyOk (documentTest setting roots) (members.map fun l =>
        ⟨.document format, some .eq, .document ⟨format, path, .compare .eq l⟩⟩) := by
  obtain ⟨equal, hone, hset⟩ :=
    Document.exists_holds_member setting.textLimit format path members htexts
  have htest : ∀ l ∈ members, documentTest setting roots
      ⟨.document format, some .eq, .document ⟨format, path, .compare .eq l⟩⟩ = .ok (equal l) := by
    intro l _
    unfold documentTest documentVerdict
    dsimp only
    rw [hone]
    rfl
  -- every comparison has an answer, so the set holds where one of its members does
  rw [anyOk_map, Document.anyOk_congr _ htest, anyOk_ok]
  unfold documentTest documentVerdict
  dsimp only
  rw [hset]
  rfl

/-! ### All together -/

theorem Predicate.Splits.wellTyped (h : p.Splits qs) :
    p.WellTyped ∧ qs ≠ [] ∧ ∀ q ∈ qs, q.WellTyped ∧ q.category = p.category := by
  cases h with
  | texts hselector hne =>
    refine ⟨.texts _ hselector, by simpa using hne, List.forall_mem_map.2 fun s _ => ?_⟩
    exact ⟨.text s hselector (by decide), rfl⟩
  | numbers hselector hne =>
    refine ⟨.numbers _ hselector, by simpa using hne, List.forall_mem_map.2 fun n _ => ?_⟩
    exact ⟨.number n hselector (by decide), rfl⟩
  | fileTypes hne =>
    refine ⟨.fileTypes _, by simpa using hne, List.forall_mem_map.2 fun t _ => ?_⟩
    exact ⟨.fileType t (by decide), rfl⟩
  | document format path hne =>
    refine ⟨.document ⟨format, path, _⟩, by simpa using hne, List.forall_mem_map.2 fun l _ => ?_⟩
    exact ⟨.document ⟨format, path, _⟩, rfl⟩

theorem Predicate.Splits.category_ne (h : p.Splits qs) : p.category ≠ .content := by
  cases h with
  | texts hselector | numbers hselector =>
    intro hcategory
    rw [Selector.family_of_content hcategory] at hselector
    cases hselector
  | fileTypes | document => exact nofun

/-- The answer for a set is that for its members, one after the other. -/
theorem Predicate.Splits.test_eq (h : p.Splits qs)
    (htexts : ∀ m, p.operand = .document m → Entity.Renders setting entity m) :
    testOf (p.category.answer setting entity) p =
      anyOk (testOf (p.category.answer setting entity)) qs := by
  obtain ⟨-, hne, -⟩ := h.wellTyped
  -- each kind of value is compared with a set as with its members in turn
  cases h with
  | @texts selector items hselector =>
    obtain ⟨s, hs⟩ := exists_nameValue_text hselector entity.path
    have hcategory :
        Predicate.category ⟨selector, some .member, .texts (asSet quote items)⟩ = .name :=
      category_of_nameValue hs
    rw [hcategory]
    exact (tests_text hs).test_eq (List.forall_mem_map.2 fun _ _ => tests_text hs) hne
      fun s _ => textTest_member s selector items
  | @numbers selector items hselector =>
    cases selector <;> cases hselector
    · exact (tests_count rfl).test_eq (List.forall_mem_map.2 fun _ _ => tests_count rfl) hne
        fun n _ => numberTest_member n .depth items
    · exact (tests_size rfl).test_eq (List.forall_mem_map.2 fun _ _ => tests_size rfl) hne
        fun n _ => numberTest_member n .size items
  | @fileTypes items =>
    exact (tests_type rfl).test_eq (List.forall_mem_map.2 fun _ _ => tests_type rfl) hne
      fun t _ => typeTest_member t items
  | @document format path members =>
    exact (tests_document rfl rfl).test_eq
      (List.forall_mem_map.2 fun _ _ => tests_document rfl rfl) hne
      fun roots hroots => documentTest_member format path members (htexts _ rfl roots hroots)

/-- A set and its members have the same evaluation. -/
theorem Predicate.Splits.evaluate_eq (h : p.Splits qs)
    (htexts : ∀ m, p.operand = .document m → Entity.Renders setting entity m) :
    ((Expr.pred p).evaluate setting entity).1 =
      ((Expr.anyOf (qs.map .pred)).evaluate setting entity).1 := by
  obtain ⟨hp, hne, hqs⟩ := h.wellTyped
  -- a predicate is the only one of its alternatives
  have hset : ((Expr.anyOf ([p].map .pred)).evaluate setting entity).1 = _ :=
    evaluate_anyOf h.category_ne (List.cons_ne_nil p []) (List.forall_mem_singleton.2 ⟨hp, rfl⟩)
  rw [anyOk_singleton, h.test_eq htexts, ← evaluate_anyOf h.category_ne hne hqs] at hset
  exact hset

end answers

/-! ## 3. Reading a set and its members -/

def RawExpr.anyOf : List RawExpr → RawExpr
  | [e] => e
  | es => .or es

/-- A predicate that asks whether what another one selects is equal to a text.  The values of
documents are compared with what the text spells when it is bare. -/
structure RawPredicate.Equates (p : RawPredicate) (item : String) (q : RawPredicate) : Prop where
  selector : q.selector = p.selector
  comparison : ∃ c, q.comparison = some c ∧ Text.lower c.operator ∈ ["==", "=", "eq"] ∧
    c.value.text = item ∧
    (c.value.form = .bare ∨ c.value.form = .quoted ∧ p.selector.toList.contains ':' = false)

section reading

variable {stack : Pattern.Stack} {clock : Clock} {p q : RawPredicate} {c : RawComparison}
  {items : List String}

theorem lookup_member (family : Family) : (operatorTable family).lookup "in" =
    if family = .temporal ∨ family = .content then none else some .member := by
  cases family <;> decide

theorem lookup_eq (family : Family) : ∀ spelling ∈ ["==", "=", "eq"],
    (operatorTable family).lookup spelling = some .eq := by
  cases family <;> decide

theorem checkAll_pred {ps : List RawPredicate} {qs : List Predicate}
    (h : List.Forall₂ (fun raw q => checkPredicate stack clock raw = .ok q) ps qs) :
    checkAll (checkPredicate stack clock) (ps.map .pred) = .ok (qs.map .pred) := by
  induction h with
  | nil => rfl
  | cons hq _ ih =>
    refine checkAll_cons_ok.2 ⟨_, _, ?_, ih, rfl⟩
    rw [RawExpr.check, hq]
    rfl

theorem check_anyOf {ps : List RawPredicate} {qs : List Predicate}
    (h : List.Forall₂ (fun raw q => checkPredicate stack clock raw = .ok q) ps qs) :
    (RawExpr.anyOf (ps.map .pred)).check (checkPredicate stack clock) =
      .ok (.anyOf (qs.map .pred)) := by
  have hall := checkAll_pred h
  cases h with
  | nil => rfl
  | cons hq hrest =>
    cases hrest with
    | nil =>
      show (RawExpr.pred _).check (checkPredicate stack clock) = _
      rw [RawExpr.check, hq]
      rfl
    | cons hq' hrest =>
      exact map_eq_ok.2 ⟨_, hall, rfl⟩

/-! ### Attributes -/

/-- A comparison of an attribute that is accepted has a value that goes with its operator. -/
theorem exists_compares_of_check {r : Predicate} (hc : p.comparison = some c)
    (hcolon : p.selector.toList.contains ':' = false) (h : checkPredicate stack clock p = .ok r) :
    ∃ selector op operand, p.Compares selector op c.value ∧
      checkFamily stack clock selector op c.value = .ok operand ∧ r = ⟨selector, some op, operand⟩ := by
  have hcheck := h
  unfold checkPredicate at h
  rw [hc] at h
  dsimp only at h
  rw [hcolon] at h
  cases hselector : selectorTable.lookup (Text.lower p.selector) with
  | none =>
    rw [hselector] at h
    cases h
  | some selector =>
    rw [hselector] at h
    obtain ⟨op, hop, h⟩ := bind_eq_ok.1 h
    obtain ⟨operand, hvalue, h⟩ := bind_eq_ok.1 h
    obtain ⟨_, hform, -⟩ := bind_eq_ok.1 hvalue
    -- what the check has gone through is what has to be known of the comparison
    have hcompares : p.Compares selector op c.value :=
      ⟨hcolon, hselector, ⟨c, hc, rfl, checkOperator_ok_iff.1 hop⟩, checkForm_ok_iff.1 hform⟩
    rw [hcompares.check] at hcheck
    obtain ⟨operand', hoperand, hr⟩ := bind_eq_ok.1 hcheck
    exact ⟨selector, op, operand', hcompares, hoperand, (Except.ok.inj hr).symm⟩

/-- An equality with a member is accepted if its text is. -/
theorem RawPredicate.Equates.check {item : String} {selector : Selector} {operand : Operand}
    (h : p.Equates item q) (hcolon : p.selector.toList.contains ':' = false)
    (hselector : selectorTable.lookup (Text.lower p.selector) = some selector)
    (hvalue : ∀ value : RawValue, value.text = item →
      checkFamily stack clock selector .eq value = .ok operand) :
    checkPredicate stack clock q = .ok ⟨selector, some .eq, operand⟩ := by
  obtain ⟨c, hc, hop, htext, hform⟩ := h.comparison
  have hitems : c.value.items? = none := by
    rw [RawValue.items?]
    rcases hform with hform | ⟨hform, -⟩ <;> rw [hform]
  have hcompares : q.Compares selector .eq c.value :=
    ⟨by rw [h.selector, hcolon], by rw [h.selector, hselector],
      ⟨c, hc, rfl, lookup_eq _ _ hop⟩, .inl hitems⟩
  rw [hcompares.check, hvalue c.value htext]
  rfl

theorem checkFileType_ok_iff {value : RawValue} {text : String} {t : FileType} :
    checkFileType value text = .ok t ↔ fileTypeTable.lookup (Text.lower text) = some t := by
  unfold checkFileType
  split
  · next t' h => simp [h]
  · next h => simp [h]

/-! ### Documents -/

theorem checkPredicate_of_colon (hc : p.comparison = some c)
    (hcolon : p.selector.toList.contains ':' = true) :
    checkPredicate stack clock p = checkDocument stack p := by
  unfold checkPredicate
  rw [hc]
  exact if_pos hcolon

/-- A comparison of documents that is accepted, step by step. -/
theorem checkDocument_ok_iff {r : Predicate} (hc : p.comparison = some c) :
    checkDocument stack p = .ok r ↔ ∃ format path op m,
      formatTable.lookup (Text.lower (splitColon p.selector).1) = some format ∧
      Document.Path.read (splitColon p.selector).2 = .ok path ∧
      (operatorTable .structured).lookup (Text.lower c.operator) = some op ∧
      checkCondition stack format path op c.value = .ok m ∧
      r = ⟨.document format, some op, .document m⟩ := by
  rw [checkDocument_eq, hc]
  constructor
  · intro h
    obtain ⟨format, hformat, h⟩ := bind_eq_ok.1 h
    obtain ⟨path, hpath, h⟩ := bind_eq_ok.1 h
    obtain ⟨op, m, hop, hm, hr⟩ := checkComparison_ok.1 h
    exact ⟨format, path, op, m, checkFormat_ok_iff.1 hformat, checkPath_ok_iff.1 hpath,
      checkOperator_ok_iff.1 hop, hm, hr⟩
  · rintro ⟨format, path, op, m, hformat, hpath, hop, hm, hr⟩
    refine bind_eq_ok.2 ⟨format, checkFormat_ok_iff.2 hformat, ?_⟩
    refine bind_eq_ok.2 ⟨path, checkPath_ok_iff.2 hpath, ?_⟩
    exact checkComparison_ok.2 ⟨op, m, checkOperator_ok_iff.2 hop, hm, hr⟩

/-- The members of a set of literals are read as bare literals. -/
theorem literals_of_checkCondition {format : Document.Format} {path : Document.Path}
    {value : RawValue} {m : Document.Matcher} (hitems : setMembers value = .ok items)
    (h : checkCondition stack format path .member value = .ok m) :
    ∃ members, List.Forall₂ (fun item l => Document.Literal.read item false = .ok l) items members ∧
      members ≠ [] ∧ m = ⟨format, path, .member members⟩ := by
  obtain ⟨_, -, h⟩ := bind_eq_ok.1 h
  obtain ⟨items', hitems', h⟩ := bind_eq_ok.1 h
  rw [membersFor, if_pos rfl, hitems] at hitems'
  cases hitems'
  rw [acceptMatcher_ok] at h
  obtain ⟨members, hmembers, h⟩ := bind_eq_ok.1 h
  split at h
  · cases h
  · next hne =>
    refine ⟨members, ?_, fun hnil => hne (by rw [hnil]; rfl), (Except.ok.inj h).symm⟩
    exact (mapM_eq_ok.1 hmembers).imp fun item l hl => mapError_eq_ok.1 hl

theorem checkCondition_eq {format : Document.Format} {path : Document.Path} {value : RawValue}
    {l : Document.Literal} (hform : value.form = .bare)
    (hl : Document.Literal.read value.text false = .ok l) :
    checkCondition stack format path .eq value = .ok ⟨format, path, .compare .eq l⟩ := by
  have hitems : value.items? = none := by rw [RawValue.items?, hform]
  refine bind_eq_ok.2 ⟨(), checkForm_ok_iff.2 (.inl hitems), ?_⟩
  refine bind_eq_ok.2 ⟨[], if_neg (by decide), ?_⟩
  rw [acceptMatcher_ok, hform]
  show Document.Matcher.compile stack format path (some .eq) value.text false [] = _
  rw [Document.compile_compare stack format path (.inr rfl), hl]
  rfl

/-! ### Both -/

theorem forall₂_of_common {α β γ : Type} {R : α → β → Prop} {S : α → γ → Prop} {T : β → γ → Prop}
    {xs : List α} {ys : List β} {zs : List γ} (hR : List.Forall₂ R xs ys)
    (hS : List.Forall₂ S xs zs) (h : ∀ x y z, R x y → S x z → T y z) : List.Forall₂ T ys zs := by
  induction hR generalizing zs with
  | nil =>
    cases hS
    exact .nil
  | cons hy _ ih =>
    cases hS with
    | cons hz hzs => exact .cons (h _ _ _ hy hz) (ih hzs)

theorem ne_nil_of_forall₂ {α β : Type} {R : α → β → Prop} {xs : List α} {ys : List β}
    (h : List.Forall₂ R xs ys) (hne : xs ≠ []) : ys ≠ [] := by
  rintro rfl
  exact hne (List.forall₂_nil_right_iff.1 h)

section attributes

variable {selector : Selector} {operand : Operand} {ps : List RawPredicate}

theorem exists_splits_texts (hcolon : p.selector.toList.contains ':' = false)
    (hp : p.Compares selector .member c.value) (hitems : setMembers c.value = .ok items)
    (hfamily : selector.family = .string)
    (h : checkFamily stack clock selector .member c.value = .ok operand)
    (hps : List.Forall₂ p.Equates items ps) :
    ∃ qs, Predicate.Splits ⟨selector, some .member, operand⟩ qs ∧
      List.Forall₂ (fun raw q => checkPredicate stack clock raw = .ok q) ps qs := by
  have hne : items ≠ [] := (setMembers_ok_iff.1 hitems).2
  rw [checkFamily, hfamily] at h
  obtain ⟨items', hitems', h⟩ := bind_eq_ok.1 h
  rw [hitems] at hitems'
  cases hitems'
  cases h
  refine ⟨_, .texts hfamily hne, List.forall₂_map_right_iff.2 ?_⟩
  -- a text is accepted as it is, in a set and alone
  refine forall₂_of_common hps (List.forall₂_same.2 fun item _ => rfl) ?_
  rintro item q _ hq rfl
  refine hq.check hcolon hp.lookup fun value hvalue => ?_
  rw [checkFamily, hfamily, ← hvalue]
  rfl

theorem exists_splits_numbers (hcolon : p.selector.toList.contains ':' = false)
    (hp : p.Compares selector .member c.value) (hitems : setMembers c.value = .ok items)
    (hfamily : selector.family = .numeric)
    (h : checkFamily stack clock selector .member c.value = .ok operand)
    (hps : List.Forall₂ p.Equates items ps) :
    ∃ qs, Predicate.Splits ⟨selector, some .member, operand⟩ qs ∧
      List.Forall₂ (fun raw q => checkPredicate stack clock raw = .ok q) ps qs := by
  have hne : items ≠ [] := (setMembers_ok_iff.1 hitems).2
  rw [checkFamily, hfamily] at h
  obtain ⟨items', hitems', h⟩ := bind_eq_ok.1 h
  rw [hitems] at hitems'
  cases hitems'
  obtain ⟨ns, hns, h⟩ := bind_eq_ok.1 h
  cases h
  have hread := mapM_eq_ok.1 hns
  refine ⟨_, .numbers hfamily (ne_nil_of_forall₂ hread hne), List.forall₂_map_right_iff.2 ?_⟩
  -- a size is read in a set as it is read alone
  refine forall₂_of_common hps hread fun item q n hq hn => ?_
  refine hq.check hcolon hp.lookup fun value hvalue => ?_
  rw [acceptLiteral_ok_iff, ← hvalue] at hn
  rw [checkFamily, hfamily]
  exact bind_eq_ok.2 ⟨n, acceptLiteral_ok_iff.2 hn, rfl⟩

theorem exists_splits_fileTypes (hcolon : p.selector.toList.contains ':' = false)
    (hp : p.Compares .type .member c.value) (hitems : setMembers c.value = .ok items)
    (h : checkFamily stack clock .type .member c.value = .ok operand)
    (hps : List.Forall₂ p.Equates items ps) :
    ∃ qs, Predicate.Splits ⟨.type, some .member, operand⟩ qs ∧
      List.Forall₂ (fun raw q => checkPredicate stack clock raw = .ok q) ps qs := by
  have hne : items ≠ [] := (setMembers_ok_iff.1 hitems).2
  obtain ⟨items', hitems', h⟩ := bind_eq_ok.1 h
  rw [hitems] at hitems'
  cases hitems'
  obtain ⟨ts, hts, h⟩ := bind_eq_ok.1 h
  cases h
  have hread := mapM_eq_ok.1 hts
  refine ⟨_, .fileTypes (ne_nil_of_forall₂ hread hne), List.forall₂_map_right_iff.2 ?_⟩
  -- and so is the name of a type
  refine forall₂_of_common hps hread fun item q t hq ht => ?_
  refine hq.check hcolon hp.lookup fun value hvalue => ?_
  rw [checkFileType_ok_iff, ← hvalue] at ht
  exact bind_eq_ok.2 ⟨t, checkFileType_ok_iff.2 ht, rfl⟩

theorem exists_splits_attribute (hcolon : p.selector.toList.contains ':' = false)
    (hp : p.Compares selector .member c.value) (hitems : setMembers c.value = .ok items)
    (h : checkFamily stack clock selector .member c.value = .ok operand)
    (hps : List.Forall₂ p.Equates items ps) :
    ∃ qs, Predicate.Splits ⟨selector, some .member, operand⟩ qs ∧
      List.Forall₂ (fun raw q => checkPredicate stack clock raw = .ok q) ps qs := by
  cases hfamily : selector.family with
  | string => exact exists_splits_texts hcolon hp hitems hfamily h hps
  | numeric => exact exists_splits_numbers hcolon hp hitems hfamily h hps
  | enum =>
    have htype : selector = .type := by
      cases selector <;> first | rfl | cases hfamily
    subst htype
    exact exists_splits_fileTypes hcolon hp hitems h hps
  | temporal | content =>
    -- no spelling of their operators asks for membership
    obtain ⟨_, -, -, hop⟩ := hp.comparison
    rw [hfamily] at hop
    exact absurd (mem_of_lookup hop) (by decide)
  | structured =>
    have hdocument := selector_ne_document selector (mem_of_lookup hp.lookup)
    cases selector with
    | document format => exact absurd rfl (hdocument format)
    | _ => cases hfamily

end attributes

theorem exists_splits_document {r : Predicate} (hc : p.comparison = some c)
    (hcolon : p.selector.toList.contains ':' = true) (hin : Text.lower c.operator = "in")
    (hitems : setMembers c.value = .ok items) (h : checkDocument stack p = .ok r)
    {ps : List RawPredicate} (hps : List.Forall₂ p.Equates items ps) :
    ∃ qs, r.Splits qs ∧ List.Forall₂ (fun raw q => checkPredicate stack clock raw = .ok q) ps qs := by
  obtain ⟨format, path, op, m, hformat, hpath, hop, hm, rfl⟩ := (checkDocument_ok_iff hc).1 h
  rw [hin, lookup_member] at hop
  cases hop
  obtain ⟨members, hmembers, hne, rfl⟩ := literals_of_checkCondition hitems hm
  refine ⟨_, .document format path hne, List.forall₂_map_right_iff.2 ?_⟩
  refine forall₂_of_common hps hmembers fun item q l hq hl => ?_
  obtain ⟨c', hc', hop', htext, hform⟩ := hq.comparison
  have hbare : c'.value.form = .bare := hform.resolve_right fun hquoted => by
    rw [hcolon] at hquoted
    cases hquoted.2
  rw [← hq.selector] at hcolon hformat hpath
  rw [checkPredicate_of_colon hc' hcolon]
  exact (checkDocument_ok_iff hc').2 ⟨format, path, .eq, _, hformat, hpath, lookup_eq _ _ hop',
    checkCondition_eq hbare (by rwa [htext]), rfl⟩

/-- Where a set is accepted, its members are. -/
theorem exists_splits {r : Predicate} (hc : p.comparison = some c)
    (hin : Text.lower c.operator = "in") (hitems : setMembers c.value = .ok items)
    (h : checkPredicate stack clock p = .ok r) {ps : List RawPredicate}
    (hps : List.Forall₂ p.Equates items ps) :
    ∃ qs, r.Splits qs ∧ List.Forall₂ (fun raw q => checkPredicate stack clock raw = .ok q) ps qs := by
  -- a colon makes it a comparison of documents
  cases hcolon : p.selector.toList.contains ':' with
  | true =>
    rw [checkPredicate_of_colon hc hcolon] at h
    exact exists_splits_document hc hcolon hin hitems h hps
  | false =>
    obtain ⟨selector, op, operand, hcompares, hoperand, rfl⟩ := exists_compares_of_check hc hcolon h
    obtain ⟨c', hc', -, hop⟩ := hcompares.comparison
    rw [hc] at hc'
    cases hc'
    rw [hin, lookup_member] at hop
    have hmember : op = .member := by
      split at hop
      · cases hop
      · exact (Option.some.inj hop).symm
    subst hmember
    exact exists_splits_attribute hcolon hcompares hitems hoperand hps

end reading

/-! ## 4. Queries -/

/-- Where a query for membership is accepted, the query for equality with one member or another is
accepted as well, however it is written, and its evaluation has the same result: the same verdict of
the same category, or the same failure.  Values of documents that are compared have to have
texts. -/
theorem evaluate_member {stack : Pattern.Stack} {clock : Clock} {query : String}
    {p : RawPredicate} {c : RawComparison}
    {items : List String} {e : Expr} (hquery : parseRaw query = .ok (.pred p))
    (hc : p.comparison = some c) (hin : Text.lower c.operator = "in")
    (hitems : setMembers c.value = .ok items) (h : parse stack clock query = .ok e)
    {ps : List RawPredicate} (hps : List.Forall₂ p.Equates items ps) :
    ∃ e', (RawExpr.anyOf (ps.map .pred)).check (checkPredicate stack clock) = .ok e' ∧
      (∀ query', parseRaw query' = .ok (.anyOf (ps.map .pred)) → parse stack clock query' = .ok e') ∧
      ∀ (setting : Setting) (entity : Entity),
        (∀ r ∈ e.predicates, ∀ m, r.operand = .document m → Entity.Renders setting entity m) →
        (e.evaluate setting entity).1 = (e'.evaluate setting entity).1 := by
  rw [parse_eq, hquery] at h
  -- the predicate of the set splits into those of its members, which are what is read for them
  obtain ⟨r, hr, rfl⟩ := map_eq_ok.1 h
  obtain ⟨qs, hsplits, hqs⟩ := exists_splits hc hin hitems hr hps
  have hcheck := check_anyOf hqs
  refine ⟨_, hcheck, fun query' hquery' => ?_, fun setting entity htexts => ?_⟩
  · rw [parse_eq, hquery']
    exact hcheck
  · exact hsplits.evaluate_eq (htexts r List.mem_cons_self)

/-- Two documents, of which the second has the second member; the metadata are not needed, and
cannot be read. -/
theorem evaluate_member_second :
    let clock : Clock := ⟨.fixed 0 0, .fixed 0⟩
    let entity : Entity := {
      path := "a.yaml"
      metadata := .error (.unavailable ⟨.missing, ""⟩)
      documents := fun _ _ => .ok [
        ⟨#[.map (.ofList [(.str "a", .scalar (.str "y"))])], .node 0⟩,
        ⟨#[.map (.ofList [(.str "a", .scalar (.str "x"))])], .node 0⟩]
      content := fun _ => ⟨[], none⟩ }
    ∃ e e', parse (.ofDepth 9) clock "yaml:.a in [1, x]" = .ok e ∧
      parse (.ofDepth 9) clock "yaml:.a == 1 || yaml:.a == x" = .ok e' ∧
      (e.evaluate {} entity).1 = .ok ⟨.accepted, .structured⟩ ∧
      (e'.evaluate {} entity).1 = .ok ⟨.accepted, .structured⟩ := by
  intro clock entity
  let p : RawPredicate := ⟨"yaml:.a", 0, some ⟨"in", 8, ⟨"[1, x]", 11, .set ["1", "x"]⟩⟩⟩
  let q : RawPredicate := ⟨"yaml:.a", 0, some ⟨"==", 8, ⟨"1", 11, .bare⟩⟩⟩
  let q' : RawPredicate := ⟨"yaml:.a", 16, some ⟨"==", 24, ⟨"x", 27, .bare⟩⟩⟩
  let m : Document.Matcher :=
    ⟨.yaml, [.field "a"], .member [⟨"1", .int 1, false⟩, ⟨"x", .str "x", false⟩]⟩
  let r : Predicate := ⟨.document .yaml, some .member, .document m⟩
  let roots : List Document.Root := [⟨#[.map (.ofList [(.str "a", .scalar (.str "y"))])], .node 0⟩,
    ⟨#[.map (.ofList [(.str "a", .scalar (.str "x"))])], .node 0⟩]
  have hraw : parseRaw "yaml:.a in [1, x]" = .ok (.pred p) := by with_unfolding_all rfl
  have hraw' : parseRaw "yaml:.a == 1 || yaml:.a == x" = .ok (.anyOf ([q, q'].map .pred)) := by
    with_unfolding_all rfl
  have hparse : parse (.ofDepth 9) clock "yaml:.a in [1, x]" = .ok (.pred r) := by with_unfolding_all rfl
  have hps : List.Forall₂ p.Equates ["1", "x"] [q, q'] :=
    .cons ⟨rfl, _, rfl, by decide, rfl, .inl rfl⟩
      (.cons ⟨rfl, _, rfl, by decide, rfl, .inl rfl⟩ .nil)
  have hadmits : Document.Format.admits .yaml "a.yaml" = true := by decide +kernel
  have hdocuments : documentsOf {} entity .yaml = .ok (some roots) := by
    show (if !Document.Format.admits .yaml "a.yaml" then _ else _) = _
    rw [hadmits]
    rfl
  have hholds : m.holds ({} : Setting).textLimit roots = .ok true := by decide +kernel
  have htest : testOf (documentAnswer {} entity) r = .ok true := by
    rw [tests_document (rfl : r.operand = .document m) rfl, hdocuments]
    show (documentVerdict {} m roots).map (·.getD false) = .ok true
    unfold documentVerdict
    rw [hholds]
    rfl
  have hverdict : ((Expr.pred r).evaluate {} entity).1 = .ok ⟨.accepted, .structured⟩ := by
    have h : ((Expr.anyOf ([r].map .pred)).evaluate {} entity).1 = _ :=
      evaluate_anyOf (c := .structured) (by decide) (List.cons_ne_nil r [])
        (List.forall_mem_singleton.2 ⟨.document m, rfl⟩)
    rw [anyOk_singleton] at h
    exact h.trans (congrArg _ htest)
  have htexts : Entity.Renders {} entity m := by
    intro roots' hroots root hroot v hv
    rw [hdocuments] at hroots
    cases hroots
    rcases List.mem_pair.1 hroot with rfl | rfl
    · rw [List.mem_singleton.1 hv]
      exact ⟨"y", rfl⟩
    · rw [List.mem_singleton.1 hv]
      exact ⟨"x", rfl⟩
  obtain ⟨e', -, hparse', hsame⟩ :=
    evaluate_member hraw rfl (by decide) (by rfl) hparse hps
  refine ⟨_, e', hparse, hparse' _ hraw', hverdict, ?_⟩
  rw [← hsame {} entity, hverdict]
  rintro r' hr m' hm'
  cases List.mem_singleton.1 hr
  cases hm'
  exact htexts

end FileQuery.Query
