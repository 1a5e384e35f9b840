import FileQuery.Proofs.Query.NormalForm
import FileQuery.Proofs.Query.Parsing

/-!
# Checking a tree with two stacks

The loop that checks a tree comes to what recursion on the tree comes to, if all its nodes have operands:
a tree on top of the stack leaves its result on top of the results, or ends the loop with its first
fault.  The nodes of a tree that is read from a query have operands, so reading a query is reading its
tokens and checking the tree by recursion.
-/

namespace FileQuery.Query

variable {stack : Pattern.Stack}

section loop

variable {ε : Type} {test : RawPredicate → Except ε Predicate}

/-! ## 1. Steps of the loop -/

theorem checkUnchecked_pred (p : RawPredicate) (isExpanded : Bool) (unchecked : List Unchecked)
    (results : List Expr) : checkUnchecked test (⟨.pred p, isExpanded⟩ :: unchecked) results =
      test p >>= fun x => checkUnchecked test unchecked (.pred x :: results) := by
  rw [checkUnchecked]
  cases test p <;> rfl

theorem checkUnchecked_expand {e : RawExpr} (he : ∀ p, e ≠ .pred p) (unchecked : List Unchecked)
    (results : List Expr) : checkUnchecked test (⟨e, false⟩ :: unchecked) results =
      checkUnchecked test (waitFor e.operands (⟨e, true⟩ :: unchecked)) results := by
  cases e with
  | pred p => exact absurd rfl (he p)
  | _ => rw [checkUnchecked]; simp

/-- A node is built from the results on top, as many as it has operands. -/
theorem checkUnchecked_build {e : RawExpr} (he : e.operands ≠ []) {typed : List Expr} {x : Expr}
    (hlength : typed.length = e.operands.length) (hx : e.build? typed = some x)
    (unchecked : List Unchecked) (results : List Expr) :
    checkUnchecked test (⟨e, true⟩ :: unchecked) (typed.reverse ++ results) =
      checkUnchecked test unchecked (x :: results) := by
  have hcount : ¬e.operands.length = 0 := fun h => he (List.length_eq_zero_iff.1 h)
  have htake : takeResults e.operands.length (typed.reverse ++ results) = (typed, results) := by
    rw [takeResults, if_neg hcount, ← hlength, ← List.length_reverse, List.take_left,
      List.drop_left, List.reverse_reverse]
  cases e with
  | pred p => exact absurd rfl he
  | _ =>
    rw [checkUnchecked, htake]
    · simp only [hx]
    · simp

/-! ## 2. Runs of the loop -/

variable (test) in
/-- A tree that is on top of the stack leaves its result, or ends the loop with its first fault,
whatever waits below it and whatever the results are. -/
def ChecksOnTop (e : RawExpr) : Prop :=
  ∀ (unchecked : List Unchecked) (results : List Expr),
    checkUnchecked test (⟨e, false⟩ :: unchecked) results =
      e.check test >>= fun x => checkUnchecked test unchecked (x :: results)

/-- A row of trees is checked from left to right, if each tree is when it is on top. -/
theorem checkUnchecked_waitFor {es : List RawExpr} (hes : ∀ e ∈ es, ChecksOnTop test e)
    (unchecked : List Unchecked) (results : List Expr) :
    checkUnchecked test (waitFor es unchecked) results =
      checkAll test es >>= fun xs => checkUnchecked test unchecked (xs.reverse ++ results) := by
  induction es generalizing results with
  | nil => rfl
  | cons e es ih =>
    rw [List.forall_mem_cons] at hes
    rw [checkAll]
    refine (hes.1 (waitFor es unchecked) results).trans ?_
    -- the first tree that is refused ends the check
    cases e.check test with
    | error fault => rfl
    | ok x =>
      refine (ih hes.2 (x :: results)).trans ?_
      cases checkAll test es with
      | error fault => rfl
      | ok xs =>
        show checkUnchecked test unchecked (xs.reverse ++ x :: results) =
          checkUnchecked test unchecked ((x :: xs).reverse ++ results)
        rw [List.reverse_cons, List.append_assoc, List.singleton_append]

/-- A node on top, whose operands are checked as by recursion. -/
theorem checksOnTop_node (node : List Expr → Expr) {e : RawExpr} (he : e.operands ≠ [])
    (hcheck : e.check test = (checkAll test e.operands).map node)
    (hnode : ∀ typed, typed.length = e.operands.length → e.build? typed = some (node typed))
    (hes : ∀ f ∈ e.operands, ChecksOnTop test f) : ChecksOnTop test e := by
  intro unchecked results
  rw [checkUnchecked_expand (by rintro p rfl; exact he rfl), checkUnchecked_waitFor hes, hcheck]
  cases htyped : checkAll test e.operands with
  | error fault => rfl
  | ok typed =>
    have hlength := (exists_of_checkAll htyped).1
    exact checkUnchecked_build he hlength (hnode typed hlength) unchecked results

theorem checkAll_singleton (e : RawExpr) :
    checkAll test [e] = (e.check test).map fun x => [x] := by
  rw [checkAll]
  cases e.check test <;> rfl

theorem checksOnTop_of_normal {P : RawPredicate → Prop} {e : RawExpr} (h : e.Normal P) :
    ChecksOnTop test e := by
  -- on the tree; what waits below it and what has been checked before it are arbitrary
  induction h with
  | @pred p _ =>
    intro unchecked results
    rw [checkUnchecked_pred, RawExpr.check]
    cases test p <;> rfl
  | @not e _ ih =>
    -- one operand makes one result, so any tree may stand in where there is none
    refine checksOnTop_node (fun typed => .not (typed.headD (.known false)))
      (List.cons_ne_nil e []) ?_ ?_ (List.forall_mem_singleton.2 ih)
    · rw [RawExpr.check, RawExpr.operands, checkAll_singleton]
      cases e.check test <;> rfl
    · intro typed hlength
      obtain ⟨x, rfl⟩ := List.length_eq_one_iff.1 hlength
      rfl
  | @and es hlength _ _ ih =>
    have hne : es ≠ [] := by
      rintro rfl
      cases hlength
    exact checksOnTop_node .and hne (by rw [RawExpr.check]; rfl) (fun _ _ => rfl) ih
  | @or es hlength _ _ ih =>
    have hne : es ≠ [] := by
      rintro rfl
      cases hlength
    exact checksOnTop_node .or hne (by rw [RawExpr.check]; rfl) (fun _ _ => rfl) ih

theorem ofRaw_eq_check {P : RawPredicate → Prop} {raw : RawExpr} (h : raw.Normal P) :
    Expr.ofRaw test raw = (raw.check test).map some := by
  rw [Expr.ofRaw, checksOnTop_of_normal h]
  cases raw.check test with
  | error fault => rfl
  | ok x =>
    show (checkUnchecked test [] [x]).map _ = _
    rw [checkUnchecked]
    rfl

end loop

/-! ## 3. Queries -/

/-- What is read from a query is flat, with at least two operands at each node. -/
theorem normal_of_parseRaw {query : String} {raw : RawExpr} (h : parseRaw query = .ok raw) :
    ∃ ts, tokenize query = .ok ts ∧ raw.Normal (RawPredicate.IsFrom ts) := by
  obtain ⟨ts, hts, -⟩ := bind_eq_ok.1 h
  obtain ⟨plain, hplain, rfl⟩ :=
    (ofTokens_ok_iff (ended_of_tokenize hts) raw).1 ((parseRaw_of_tokenize hts raw).1 h)
  exact ⟨ts, hts, hplain.normal⟩

/-- A query is read by reading its untyped tree and checking that from left to right. -/
theorem parse_eq (clock : Clock) (query : String) : parse stack clock query =
    match parseRaw query with
    | .error e => .error (.malformed e)
    | .ok raw => raw.check (checkPredicate stack clock) := by
  rw [parse]
  cases hraw : parseRaw query with
  | error e => rfl
  | ok raw =>
    obtain ⟨ts, -, hnormal⟩ := normal_of_parseRaw hraw
    simp only [ofRaw_eq_check hnormal]
    cases raw.check (checkPredicate stack clock) <;> rfl

end FileQuery.Query
