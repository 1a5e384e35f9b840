import FileQuery.Proofs.Document.Reachability

/-!
# What lists contain

A list contains a value if one of its items is equal to it.  Asking the lists at a path what they
contain is asking whether one of the values behind the wildcard after that path is equal: the items
come in the same order, and an item that several lists share is looked at again in vain.
-/

namespace FileQuery.Document

/-! ## 1. Looking for one element -/

section anyOk

variable {α β ε : Type} (test : α → Except ε Bool)

theorem anyOk_append (xs ys : List α) :
    anyOk test (xs ++ ys) = (do if ← anyOk test xs then return true else anyOk test ys) := by
  induction xs with
  | nil => rfl
  | cons x xs ih =>
    rw [List.cons_append, anyOk_cons, anyOk_cons, ih]
    -- only where the first element does not decide it, the others are looked at
    rcases test x with fault | (_ | _) <;> rfl

theorem anyOk_flatMap (f : β → List α) (xs : List β) :
    anyOk test (xs.flatMap f) = anyOk (fun x => anyOk test (f x)) xs := by
  induction xs with
  | nil => rfl
  | cons x xs ih => rw [List.flatMap_cons, anyOk_append, ih, anyOk_cons]

theorem anyOk_congr {test' : α → Except ε Bool} {xs : List α} (h : ∀ x ∈ xs, test x = test' x) :
    anyOk test xs = anyOk test' xs := by
  induction xs with
  | nil => rfl
  | cons x xs ih =>
    rw [List.forall_mem_cons] at h
    rw [anyOk_cons, anyOk_cons, h.1, ih h.2]

/-- Tests that all give an answer, which tells of a property, tell whether some element has it. -/
theorem exists_anyOk_iff {P : α → Prop} {xs : List α}
    (h : ∀ x ∈ xs, ∃ b, test x = .ok b ∧ (b = true ↔ P x)) :
    ∃ b, anyOk test xs = .ok b ∧ (b = true ↔ ∃ x ∈ xs, P x) := by
  obtain ⟨b, hb, hiff⟩ := exists_anyOk test fun x hx => (h x hx).imp fun _ => And.left
  refine ⟨b, hb, hiff.trans (exists_congr fun x => and_congr_right fun hx => ?_)⟩
  obtain ⟨answer, hanswer, hP⟩ := h x hx
  rw [hanswer, Except.ok.injEq, hP]

end anyOk

section distinct

variable {ε : Type} {test : Value → Except ε Bool}

/-- A collection that is mentioned again has been tested already, and did not end the search. -/
theorem anyOk_distinctFrom {seen : List Nat} (values : List Value)
    (hseen : ∀ id ∈ seen, test (.node id) = .ok false) :
    anyOk test (distinctFrom seen values) = anyOk test values := by
  fun_induction distinctFrom seen values with
  | case1 => rfl
  | case2 seen s rest ih => rw [anyOk_cons, anyOk_cons, ih hseen]
  | case3 seen id rest hid ih =>
    rw [ih hseen, anyOk_cons, hseen id hid]
    rfl
  | case4 seen id rest hid ih =>
    rw [anyOk_cons, anyOk_cons]
    cases htest : test (.node id) with
    | error fault => rfl
    | ok b =>
      cases b with
      | true => rfl
      | false => exact ih (List.forall_mem_cons.2 ⟨htest, hseen⟩)

theorem anyOk_distinct (values : List Value) :
    anyOk test (distinct values) = anyOk test values :=
  anyOk_distinctFrom values nofun

end distinct

/-! ## 2. The wildcard -/

variable {limit : TextLimit} {root : Root} {path : Path}

theorem navigate_append (segment : Segment) : navigate root (path ++ [segment]) =
    distinct ((navigate root path).flatMap (follow root.store segment)) := by
  rw [navigate, List.foldl_append]
  rfl

/-- In one document: the lists at a path are gone through one after the other. -/
theorem anyOk_contains (l : Literal)
    (hlists : ∀ v ∈ navigate root path, ∃ items, root.store.items? v = some items) :
    anyOk ((Condition.compare .contains l).holds limit root.store) (navigate root path) =
      anyOk ((Condition.compare .eq l).holds limit root.store)
        (navigate root (path ++ [.wildcard])) := by
  rw [navigate_append, anyOk_distinct, anyOk_flatMap]
  refine anyOk_congr _ fun v hv => ?_
  obtain ⟨items, hitems⟩ := hlists v hv
  rw [Condition.holds, follow, hitems]
  rfl

/-- Of a list whose items have texts it is known whether it contains a value. -/
theorem exists_holds_contains (l : Literal) {store : Store} {v : Value}
    (hlist : ∃ items, store.items? v = some items)
    (htexts : ∀ items, store.items? v = some items →
      ∀ w ∈ items, ∃ text, textOf limit store w = .ok text) :
    ∃ b, (Condition.compare .contains l).holds limit store v = .ok b ∧
      (b = true ↔ ∃ items, store.items? v = some items ∧
        ∃ w ∈ items, l.equals limit store w = .ok true) := by
  obtain ⟨items, hitems⟩ := hlist
  obtain ⟨b, hb, hiff⟩ := exists_anyOk (l.equals limit store) fun w hw =>
    l.exists_equals (htexts items hitems w hw)
  refine ⟨b, ?_, ?_⟩
  · rw [Condition.holds, hitems]
    exact hb
  · rw [hiff, hitems]
    constructor
    · intro h
      exact ⟨items, rfl, h⟩
    · rintro ⟨items', ⟨⟩, h⟩
      exact h

theorem compile_compare (stack : Pattern.Stack) (format : Format) (path : Path) {op : Operator}
    (hop : op = .contains ∨ op = .eq) (raw : String) (quoted : Bool) :
    Matcher.compile stack format path (some op) raw quoted [] =
      ((Literal.read raw quoted).mapError .literal).map (⟨format, path, .compare op ·⟩) := by
  rcases hop with rfl | rfl <;> unfold Matcher.compile <;> cases Literal.read raw quoted <;> rfl

/-- Where a path leads to lists only, that one of them contains a value and that a value behind the
wildcard is equal to it are the same condition, and so is why there is no answer.  There is one if
the texts of the items can be written, and then it is whether an item of these lists is equal. -/
theorem contains_eq_wildcard (stack : Pattern.Stack) (limit : TextLimit) (format : Format)
    (path : Path) (raw : String) (quoted : Bool) {documents : List Root}
    (hlists : ∀ root ∈ documents, ∀ v ∈ navigate root path,
      ∃ items, root.store.items? v = some items) :
    (Matcher.compile stack format path (some .contains) raw quoted []).map
        (·.holds limit documents) =
      (Matcher.compile stack format (path ++ [.wildcard]) (some .eq) raw quoted []).map
        (·.holds limit documents) ∧
    ((∀ root ∈ documents, ∀ v ∈ navigate root path, ∀ items, root.store.items? v = some items →
        ∀ w ∈ items, ∃ text, textOf limit root.store w = .ok text) →
      ∀ l, Literal.read raw quoted = .ok l →
        ∃ m b, Matcher.compile stack format path (some .contains) raw quoted [] = .ok m ∧
          m.holds limit documents = .ok b ∧
          (b = true ↔ ∃ root ∈ documents, ∃ v ∈ navigate root path,
            ∃ items, root.store.items? v = some items ∧
              ∃ w ∈ items, l.equals limit root.store w = .ok true)) := by
  rw [compile_compare stack format path (.inl rfl), compile_compare stack format _ (.inr rfl)]
  constructor
  · cases hl : Literal.read raw quoted with
    | error fault => rfl
    | ok l =>
      have hholds : Matcher.holds limit ⟨format, path, .compare .contains l⟩ documents =
          Matcher.holds limit ⟨format, path ++ [.wildcard], .compare .eq l⟩ documents := by
        rw [Matcher.holds_eq, Matcher.holds_eq]
        exact anyOk_congr _ fun root hroot => anyOk_contains l (hlists root hroot)
      exact congrArg Except.ok hholds
  · intro htexts l hl
    rw [hl]
    refine ⟨⟨format, path, .compare .contains l⟩, ?_⟩
    rw [Matcher.holds_eq]
    -- document by document, list by list and item by item
    obtain ⟨b, hb, hiff⟩ := exists_anyOk_iff _ fun root hroot =>
      exists_anyOk_iff ((Condition.compare .contains l).holds limit root.store) fun v hv =>
        exists_holds_contains l (hlists root hroot v hv) (htexts root hroot v hv)
    exact ⟨b, rfl, hb, hiff⟩

/-- Two lists, of which the second holds the first twice and itself: the number is found in it as a
text. -/
theorem contains_eq_wildcard_shared :
    let store : Store := #[
      .list [.node 1, .node 2],
      .list [],
      .list [.node 1, .scalar (.bool true), .node 1, .node 2, .scalar (.str "8080")]]
    let root : Root := ⟨store, .node 0⟩
    navigate root [.wildcard] = [.node 1, .node 2] ∧
      (∀ v ∈ navigate root [.wildcard], ∃ items, store.items? v = some items) ∧
      (∀ v ∈ navigate root [.wildcard], ∀ items, store.items? v = some items →
        ∀ w ∈ items, ∃ text, textOf { length := 64 } store w = .ok text) ∧
      (Matcher.compile (.ofDepth 9) .yaml [.wildcard, .wildcard] (some .eq) "8080" false []).map
        (·.holds { length := 64 } [root]) = .ok (.ok true) := by
  intro store root
  have hnavigate : navigate root [.wildcard] = [.node 1, .node 2] := by decide
  have hread : Literal.read "8080" false = .ok ⟨"8080", .int 8080, false⟩ := by decide +kernel
  have hlists : ∀ v ∈ navigate root [.wildcard], ∃ items, store.items? v = some items := by
    rw [hnavigate]
    simp [store, Store.items?, Store.collection?]
  have htexts : ∀ v ∈ navigate root [.wildcard], ∀ items, store.items? v = some items →
      ∀ w ∈ items, ∃ text, textOf { length := 64 } store w = .ok text := by
    have hfirst : textOf { length := 64 } store (.node 1) = .ok "[]" := rfl
    have hsecond : textOf { length := 64 } store (.node 2) = .ok "[[],true,[],...,\"8080\"]" := by
      with_unfolding_all rfl
    intro v hv items hitems w hw
    rw [hnavigate] at hv
    rcases List.mem_pair.1 hv with rfl | rfl
    · cases hitems
      cases hw
    · cases hitems
      simp only [List.mem_cons, List.not_mem_nil, or_false] at hw
      rcases hw with rfl | rfl | rfl | rfl | rfl
      exacts [⟨_, hfirst⟩, ⟨"true", rfl⟩, ⟨_, hfirst⟩, ⟨_, hsecond⟩, ⟨"8080", rfl⟩]
  obtain ⟨heq, hanswer⟩ := contains_eq_wildcard (.ofDepth 9) { length := 64 } .yaml [.wildcard]
    "8080" false (List.forall_mem_singleton.2 hlists)
  obtain ⟨m, b, hm, hb, hiff⟩ := hanswer (List.forall_mem_singleton.2 htexts) _ hread
  -- the last item of the second list is equal by its text
  have htrue : b = true := hiff.2 ⟨root, List.mem_cons_self, .node 2, by simp [hnavigate], _, rfl,
    .scalar (.str "8080"), by simp, rfl⟩
  refine ⟨hnavigate, hlists, htexts, ?_⟩
  rw [hm] at heq
  rw [htrue] at hb
  exact heq.symm.trans (congrArg Except.ok hb)

end FileQuery.Document
