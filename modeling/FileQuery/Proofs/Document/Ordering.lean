import FileQuery.Proofs.Document.Reachability
import FileQuery.Proofs.Number.Rounding

/-!
# Orders of integers and of their digits

Integers are ordered exactly.  The digits of an integer, in a document or as a quoted value, stand
for the floating-point number nearest to it, so they are ordered as the integer is if it has few
enough bits.  Of two other integers the digits of one can be taken for the other.
-/

namespace FileQuery.Document

open Number

/-! ## 1. Digits as numbers -/

theorem isBlank_toString (i : Int) : ∀ c ∈ (toString i).toList, Text.isBlank c = false := by
  intro c hc
  rw [toList_toString, signOf, List.mem_append] at hc
  rcases hc with hc | hc
  · split at hc
    · rw [List.mem_singleton.1 hc]
      decide
    · cases hc
  · exact Text.isBlank_of_isDigit (isDigit_of_mem_toDigits hc)

theorem trim_toString (i : Int) : Text.trim (toString i).toList = (toString i).toList :=
  Text.trim_of_forall (isBlank_toString i)

theorem takeSign_toString (i : Int) :
    takeSign (toString i).toList = (decide (i < 0), Nat.toDigits 10 i.natAbs) := by
  rw [toList_toString, signOf]
  by_cases hneg : i < 0
  · rw [if_pos hneg, decide_eq_true hneg]
    rfl
  · rw [if_neg hneg, decide_eq_false hneg, List.nil_append]
    obtain ⟨c, digits, hdigits, hall⟩ := exists_toDigits i.natAbs
    have hc := hall c List.mem_cons_self
    rw [hdigits, takeSign]
    · rintro rest ⟨⟩
      cases hc
    · rintro rest ⟨⟩
      cases hc

theorem isDecimal_toDigits (n : Nat) : ∀ c ∈ Nat.toDigits 10 n, Text.isDecimal c = true :=
  fun _ hc => Text.isDecimal_of_isDigit (isDigit_of_mem_toDigits hc)

theorem readFloat_toString (i : Int) : readFloat (toString i).toList =
    some ⟨decide (i < 0), Nat.toDigits 10 i.natAbs, 0, 0⟩ := by
  have hwhole : (Nat.toDigits 10 i.natAbs).takeWhile Text.isDecimal = Nat.toDigits 10 i.natAbs :=
    List.takeWhile_eq_self_iff.2 (isDecimal_toDigits _)
  have hrest : (Nat.toDigits 10 i.natAbs).dropWhile Text.isDecimal = [] :=
    List.dropWhile_eq_nil_iff.2 (isDecimal_toDigits _)
  have hne : (Nat.toDigits 10 i.natAbs).isEmpty = false := by
    rw [List.isEmpty_eq_false_iff]
    exact Nat.toDigits_ne_nil
  rw [readFloat, takeSign_toString]
  simp only [hwhole, hrest, hne, Bool.false_and, List.append_nil]
  rfl

/-- The digits of an integer spell the number nearest to it. -/
theorem spelledNumber_toString (i : Int) :
    Scalar.spelledNumber (toString i) = .ok (some (Binary64.spelled i)) := by
  have hfree : ∀ c ∈ (toString i).toList, Text.isSeparator c = false := fun c hc => by
    by_contra hseparator
    have hblank := Text.isBlank_of_isSeparator (Bool.eq_true_of_not_eq_false hseparator)
    rw [isBlank_toString i c hc] at hblank
    cases hblank
  rw [Scalar.spelledNumber, Text.trimNumber_of_forall hfree, trim_toString, readFloat_toString]
  show Except.ok (some (Binary64.ofDecimal (decide (i < 0))
    ((digitsValue? 0 (Nat.toDigits 10 i.natAbs)).getD 0) ((0 : Int) - (0 : Nat)))) = _
  rw [digitsValue?_toDigits]
  rfl

theorem asNumber_toString (i : Int) :
    (Scalar.str (toString i)).asNumber = .ok (some (.float (Binary64.spelled i))) := by
  rw [Scalar.asNumber, spelledNumber_toString]
  rfl

/-- Bare digits, if they are not too many, are the integer itself. -/
theorem readLiteral_toString {i : Int} (h : isWritable i = true) :
    readLiteral (toString i) = .ok (.int i) := by
  have hdigits : (!(Nat.toDigits 10 i.natAbs).isEmpty &&
      (Nat.toDigits 10 i.natAbs).all Text.isDecimal) = true := by
    rw [Bool.and_eq_true, Bool.not_eq_true', List.isEmpty_eq_false_iff]
    exact ⟨Nat.toDigits_ne_nil, List.all_eq_true.2 (isDecimal_toDigits _)⟩
  unfold readLiteral
  dsimp only
  rw [takeSign_toString, if_pos hdigits, readInteger_toString h]
  rfl

/-! ## 2. Conditions by order -/

variable {stack : Pattern.Stack} {limit : TextLimit} {format : Format} {path : Path}

theorem checkNumeric_of_asNumber (op : Operator) {l : Literal} {y : Numeric}
    (hy : l.value.asNumber = .ok (some y)) : Matcher.checkNumeric op l = .ok () := by
  unfold Matcher.checkNumeric
  split
  · rw [hy]
    rfl
  · rfl

theorem compile_ordering {op : Operator} (hop : op.isOrdering = true) {raw : String} {quoted : Bool}
    {l : Literal} (hl : Literal.read raw quoted = .ok l) {y : Numeric}
    (hy : l.value.asNumber = .ok (some y)) :
    Matcher.compile stack format path (some op) raw quoted [] =
      .ok ⟨format, path, .compare op l⟩ := by
  have hnumeric := checkNumeric_of_asNumber op hy
  cases op with
  | gt | ge | lt | le =>
    exact bind_eq_ok.2 ⟨l, mapError_eq_ok.2 hl, bind_eq_ok.2 ⟨(), hnumeric, rfl⟩⟩
  | _ => cases hop

theorem exists_decide? {op : Operator} (hop : op.isOrdering = true) (o : Ordering) :
    ∃ b, op.decide? o = some b := by
  cases op with
  | gt | ge | lt | le => exact ⟨_, rfl⟩
  | _ => cases hop

/-- Two numbers that are not equal are told apart by an order that equal ones would satisfy. -/
theorem exists_ordering_ne {o : Ordering} (h : o ≠ .eq) :
    ∃ op : Operator, op.isOrdering = true ∧ op.decide? .eq = some true ∧
      op.decide? o = some false := by
  cases o with
  | lt => exact ⟨.ge, rfl, rfl, rfl⟩
  | eq => exact absurd rfl h
  | gt => exact ⟨.le, rfl, rfl, rfl⟩

theorem inOrder_of_compare? {op : Operator} {x y : Numeric} {o : Ordering} {b : Bool}
    (ho : x.compare? y = some o) (hb : op.decide? o = some b) :
    inOrder op (some x) (some y) = b := by
  simp [inOrder, ho, hb]

theorem holds_ordering {op : Operator} (hop : op.isOrdering = true) {store : Store} {l : Literal}
    {s : Scalar} {x y : Numeric} {o : Ordering} {b : Bool} (hx : s.asNumber = .ok (some x))
    (hy : l.value.asNumber = .ok (some y)) (ho : x.compare? y = some o) (hb : op.decide? o = some b) :
    (Condition.compare op l).holds limit store (.scalar s) = .ok b := by
  cases op with
  | gt | ge | lt | le =>
    show (s.asNumber >>= fun x? => l.value.asNumber >>= fun y? => .ok (inOrder _ x? y?)) = _
    rw [hx, hy]
    exact congrArg Except.ok (inOrder_of_compare? ho hb)
  | _ => cases hop

/-! ## 3. Integers and what their digits spell -/

theorem compare?_spelled_int {n m : Int} (h : IsToldFrom n m) :
    Numeric.compare? (.float (Binary64.spelled n)) (.int m) = some (compare n m) := by
  have hswap : (compare m n).swap = compare n m := Std.OrientedCmp.eq_swap.symm
  rw [Numeric.compare?, Binary64.compareInt?_spelled h, ← hswap]
  rfl

/-- An integer that is not exact is not equal to what its digits spell. -/
theorem exists_compare?_ne {n : Int} (h : ¬IsExact n) : ∃ o ≠ .eq,
    Numeric.compare? (.int n) (.float (Binary64.spelled n)) = some o ∧
      Numeric.compare? (.float (Binary64.spelled n)) (.int n) = some o.swap := by
  obtain ⟨o, ho, hexact⟩ := Binary64.exists_compareInt?_self n
  refine ⟨o, fun heq => h (hexact heq), ho, ?_⟩
  rw [Numeric.compare?, ho]
  rfl

/-! ## 4. Answers -/

def orderAnswer (stack : Pattern.Stack) (limit : TextLimit) (format : Format) (path : Path)
    (op : Operator) (m : Int) (quoted : Bool) (root : Root) :
    Except MatcherFault (Except TextFault Bool) :=
  (Matcher.compile stack format path (some op) (toString m) quoted []).map (·.holds limit [root])

theorem orderAnswer_eq {op : Operator} (hop : op.isOrdering = true) {m : Int} {quoted : Bool}
    {l : Literal} (hl : Literal.read (toString m) quoted = .ok l) {root : Root} {s : Scalar}
    (hroot : navigate root path = [.scalar s]) {x y : Numeric} (hx : s.asNumber = .ok (some x))
    (hy : l.value.asNumber = .ok (some y)) {o : Ordering} (ho : x.compare? y = some o) {b : Bool}
    (hb : op.decide? o = some b) :
    orderAnswer stack limit format path op m quoted root = .ok (.ok b) := by
  have hvalues : anyOk ((Condition.compare op l).holds limit root.store) (navigate root path) =
      .ok b := by
    rw [hroot, anyOk_cons, holds_ordering hop hx hy ho hb]
    cases b <;> rfl
  have hdocuments : Matcher.holds limit ⟨format, path, .compare op l⟩ [root] = .ok b := by
    rw [Matcher.holds_eq, anyOk_cons]
    dsimp only
    rw [hvalues]
    cases b <;> rfl
  rw [orderAnswer, compile_ordering hop hl hy]
  exact congrArg Except.ok hdocuments

theorem read_bare {m : Int} (h : isWritable m = true) :
    Literal.read (toString m) false = .ok ⟨toString m, .int m, false⟩ := by
  rw [Literal.read, if_neg Bool.false_ne_true, readLiteral_toString h]
  rfl

theorem read_quoted (m : Int) :
    Literal.read (toString m) true = .ok ⟨toString m, .str (toString m), true⟩ := rfl

/-- How the values of a document and an integer are ordered, each of them bare or as digits.  Bare,
the order is theirs.  It is so with digits on one side if an exact integer tells them from the
integer on the other side, and with digits on both sides if two exact integers tell these apart; all
exact integers are told from all integers.  Two texts of digits are never ordered the other way
round, but an integer that is not exact is told even from its own digits. -/
theorem orders_of_digits (stack : Pattern.Stack) (limit : TextLimit) (format : Format) (path : Path)
    {n m : Int} (hm : isWritable m = true) {native digits : Root}
    (hnative : navigate native path = [.scalar (.int n)])
    (hdigits : navigate digits path = [.scalar (.str (toString n))]) :
    (∀ op : Operator, op.isOrdering = true → ∃ b, op.decide? (compare n m) = some b ∧
      orderAnswer stack limit format path op m false native = .ok (.ok b) ∧
      (IsToldFrom n m → orderAnswer stack limit format path op m false digits = .ok (.ok b)) ∧
      (IsToldFrom m n → orderAnswer stack limit format path op m true native = .ok (.ok b)) ∧
      (AreToldApart n m → orderAnswer stack limit format path op m true digits = .ok (.ok b))) ∧
    (IsExact n → IsToldFrom n m) ∧ (IsExact m → IsToldFrom m n) ∧
    (IsExact n → IsExact m → AreToldApart n m) ∧
    (∃ o, (o = compare n m ∨ o = .eq) ∧ ∀ op : Operator, op.isOrdering = true →
      ∃ b, op.decide? o = some b ∧
        orderAnswer stack limit format path op m true digits = .ok (.ok b)) ∧
    (n = m → ¬IsExact n →
      (∃ op : Operator, op.isOrdering = true ∧
        orderAnswer stack limit format path op m false native = .ok (.ok true) ∧
        orderAnswer stack limit format path op m false digits = .ok (.ok false)) ∧
      (∃ op : Operator, op.isOrdering = true ∧
        orderAnswer stack limit format path op m false native = .ok (.ok true) ∧
        orderAnswer stack limit format path op m true native = .ok (.ok false))) := by
  have hspelledn := asNumber_toString n
  have hspelledm := asNumber_toString m
  have hbare := read_bare hm
  have hquoted := read_quoted m
  refine ⟨fun op hop => ?_, fun hn => hn.isToldFrom m, fun hm => hm.isToldFrom n,
    fun hn hm => hn.areToldApart hm, ?_, ?_⟩
  · obtain ⟨b, hb⟩ := exists_decide? hop (compare n m)
    refine ⟨b, hb, orderAnswer_eq hop hbare hnative rfl rfl rfl hb, fun h => ?_, fun h => ?_,
      fun h => ?_⟩
    · exact orderAnswer_eq hop hbare hdigits hspelledn rfl (compare?_spelled_int h) hb
    · exact orderAnswer_eq hop hquoted hnative rfl hspelledm (Binary64.compareInt?_spelled h) hb
    · exact orderAnswer_eq hop hquoted hdigits hspelledn hspelledm
        (Binary64.compare?_spelled_of_areToldApart h) hb
  · have hanswer : ∀ {o : Ordering},
        Binary64.compare? (Binary64.spelled n) (Binary64.spelled m) = some o →
        ∀ op : Operator, op.isOrdering = true → ∃ b, op.decide? o = some b ∧
          orderAnswer stack limit format path op m true digits = .ok (.ok b) := by
      intro o ho op hop
      obtain ⟨b, hb⟩ := exists_decide? hop o
      exact ⟨b, hb, orderAnswer_eq hop hquoted hdigits hspelledn hspelledm ho hb⟩
    rcases Binary64.compare?_spelled n m with ho | ho
    · exact ⟨_, .inl rfl, hanswer ho⟩
    · exact ⟨_, .inr rfl, hanswer ho⟩
  · -- an integer that is not exact differs from what its digits are read as
    rintro rfl hinexact
    obtain ⟨o, hne, hint, hfloat⟩ := exists_compare?_ne hinexact
    have hself : Numeric.compare? (.int n) (.int n) = some .eq :=
      congrArg some (compare_eq_iff_eq.2 rfl)
    constructor
    · obtain ⟨op, hop, heq, hb⟩ := exists_ordering_ne (o := o.swap) fun h => hne (by simpa using h)
      exact ⟨op, hop, orderAnswer_eq hop hbare hnative rfl rfl hself heq,
        orderAnswer_eq hop hbare hdigits hspelledn rfl hfloat hb⟩
    · obtain ⟨op, hop, heq, hb⟩ := exists_ordering_ne hne
      exact ⟨op, hop, orderAnswer_eq hop hbare hnative rfl rfl hself heq,
        orderAnswer_eq hop hquoted hnative rfl hspelledn hint hb⟩

def singleton (s : Scalar) : Root := ⟨#[.map (.ofList [(.str "v", .scalar s)])], .node 0⟩

/-- The digits of `2 ^ 53 + 1` stand for `2 ^ 53`, and are less than three more than that all the
same. -/
theorem orders_of_digits_above :
    let n : Int := 9007199254740993
    let m : Int := 9007199254740995
    isWritable m = true ∧
      navigate (singleton (.int n)) [.field "v"] = [.scalar (.int n)] ∧
      navigate (singleton (.str (toString n))) [.field "v"] = [.scalar (.str (toString n))] ∧
      orderAnswer (.ofDepth 9) {} .json [.field "v"] .lt m false (singleton (.str (toString n))) =
        .ok (.ok true) := by
  intro n m
  have hm : isWritable m = true := by decide +kernel
  have hnative : navigate (singleton (.int n)) [.field "v"] = [.scalar (.int n)] := rfl
  have hdigits : navigate (singleton (.str (toString n))) [.field "v"] =
      [.scalar (.str (toString n))] := rfl
  -- `2 ^ 53 + 2` lies between the two
  have htold : IsToldFrom n m :=
    .inr ⟨9007199254740994, ⟨4503599627370497, 1, by decide, by decide, by decide⟩,
      .inl (by decide)⟩
  obtain ⟨b, hb, -, hbare, -, -⟩ :=
    (orders_of_digits (.ofDepth 9) {} .json [.field "v"] hm hnative hdigits).1 .lt rfl
  cases hb
  exact ⟨hm, hnative, hdigits, hbare htold⟩

/-- The digits of `2 ^ 53 + 1` are not greater than `2 ^ 53`, neither in a document nor in a
query. -/
theorem digits_lose_order :
    let n : Int := 9007199254740993
    let m : Int := 9007199254740992
    let answer := orderAnswer (.ofDepth 9) {} .json [.field "v"]
    answer .gt m false (singleton (.int n)) = .ok (.ok true) ∧
      answer .gt m false (singleton (.str (toString n))) = .ok (.ok false) ∧
      answer .lt n false (singleton (.int m)) = .ok (.ok true) ∧
      answer .lt n true (singleton (.int m)) = .ok (.ok false) := by
  decide +kernel

end FileQuery.Document
