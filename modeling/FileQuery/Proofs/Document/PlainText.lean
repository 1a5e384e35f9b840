import FileQuery.Document.Matcher
import FileQuery.Proofs.Result

/-!
# Texts of plain documents

A text can be missing: because it would be too long, or because a number in it is.  Both are foreseen
by comparisons.  Only inside a pair can other things go wrong, so a comparison with the values of a
document that consists of lists and maps fails in a foreseen way or not at all.
-/

namespace FileQuery.Document

variable {α β : Type} {limit : TextLimit}

/-! ## 1. Steps whose faults are foreseen -/

/-- A step that fails only for reasons that comparisons foresee. -/
def FailsForeseen (r : Except TextFault α) : Prop :=
  ∀ fault, r = .error fault → fault.isForeseen = true

namespace FailsForeseen

theorem ok (a : α) : FailsForeseen (.ok a) := nofun

theorem error {fault : TextFault} (h : fault.isForeseen = true) :
    FailsForeseen (.error fault : Except TextFault α) := by
  rintro _ ⟨⟩
  exact h

theorem bind {x : Except TextFault α} {f : α → Except TextFault β} (hx : FailsForeseen x)
    (hf : ∀ a, FailsForeseen (f a)) : FailsForeseen (x >>= f) := by
  cases x with
  | error fault => exact error (hx fault rfl)
  | ok a => exact hf a

theorem map {x : Except TextFault α} (hx : FailsForeseen x) (f : α → β) :
    FailsForeseen (x.map f) := by
  cases x with
  | error fault => exact error (hx fault rfl)
  | ok a => exact ok (f a)

theorem anyOk {test : α → Except TextFault Bool} {xs : List α}
    (h : ∀ x ∈ xs, FailsForeseen (test x)) : FailsForeseen (anyOk test xs) := by
  induction xs with
  | nil => exact ok false
  | cons x xs ih =>
    rw [List.forall_mem_cons] at h
    refine h.1.bind fun b => ?_
    cases b with
    | true => exact ok true
    | false => exact ih h.2

end FailsForeseen

/-! ## 2. Scalars and sets -/

theorem failsForeseen_integerText (i : Int) : FailsForeseen (integerText i) := by
  unfold integerText
  split
  · exact .ok _
  · exact .error rfl

theorem Scalar.failsForeseen_innerText (s : Scalar) : FailsForeseen s.innerText := by
  cases s with
  | int i => exact failsForeseen_integerText i
  | float x => cases x <;> exact .ok _
  | _ => exact .ok _

theorem Scalar.failsForeseen_text (limit : Nat) (s : Scalar) : FailsForeseen (s.text limit) := by
  cases s with
  | bytes b =>
    unfold text
    dsimp only
    split
    · exact .error rfl
    · exact .ok _
  | int i => exact failsForeseen_integerText i
  | _ => exact .ok _

theorem Scalar.failsForeseen_keyText (limit : Nat) (key : Scalar) :
    FailsForeseen (key.keyText limit) :=
  (key.failsForeseen_text limit).map jsonString

theorem Scalar.failsForeseen_asNumber (s : Scalar) : FailsForeseen s.asNumber := by
  cases s with
  | str s =>
    refine FailsForeseen.map ?_ _
    unfold spelledNumber
    split
    · exact .ok _
    · split
      · exact .ok _
      · exact .error rfl
  | _ => exact .ok _

/-! ## 3. Collections -/

theorem failsForeseen_add (limit : Nat) (w : Written) (text : String) :
    FailsForeseen (w.add limit text) := by
  unfold Written.add
  dsimp only
  split
  · exact .error rfl
  · exact .ok _

def Root.IsPlain (root : Root) : Prop :=
  ∀ c ∈ root.store, (∃ items, c = .list items) ∨ ∃ entries, c = .map entries

theorem Root.IsPlain.cases {root : Root} (h : root.IsPlain) {id : Nat} {c : Collection}
    (hc : root.store[id]? = some c) : (∃ items, c = .list items) ∨ ∃ entries, c = .map entries :=
  h c (Array.mem_of_getElem? hc)

theorem failsForeseen_labelled (limit : Nat) (entries : List (Scalar × Value)) :
    FailsForeseen (labelled limit entries) := by
  induction entries with
  | nil => exact .ok _
  | cons entry rest ih =>
    exact (entry.1.failsForeseen_keyText limit).bind fun _ => ih.bind fun _ => .ok _

theorem failsForeseen_openValue {root : Root} (h : root.IsPlain) (inside : List Nat) (v : Value) :
    FailsForeseen (openValue limit root.store inside v) := by
  cases v with
  | scalar s => exact s.failsForeseen_innerText.bind fun _ => .ok _
  | node id =>
    rw [openValue]
    split
    · exact .ok _
    · cases hc : root.store[id]? with
      | none => exact .ok _
      | some c =>
        obtain ⟨items, rfl⟩ | ⟨entries, rfl⟩ := h.cases hc
        · exact .ok _
        · exact (failsForeseen_labelled _ _).bind fun _ => .ok _

theorem failsForeseen_writeTasks {root : Root} (h : root.IsPlain) (inside : List Nat) (w : Written)
    (tasks : List Task) : FailsForeseen (writeTasks limit root.store inside w tasks) := by
  -- along the pieces of work; a value begins well or fails in a foreseen way
  fun_induction writeTasks limit root.store inside w tasks with
  | case1 => exact .ok _
  | case2 _ _ _ _ ih => exact ih
  | case3 _ w s _ fault hfault => exact .error (failsForeseen_add _ w s fault hfault)
  | case4 _ _ _ _ _ _ ih => exact ih
  | case5 inside _ v _ fault hfault =>
    exact .error (failsForeseen_openValue h inside v fault hfault)
  | case6 _ w _ _ opened _ fault hfault =>
    exact .error (failsForeseen_add _ w opened.text fault hfault)
  | case7 _ _ _ _ _ _ _ _ ih => exact ih

theorem failsForeseen_textOf {root : Root} (h : root.IsPlain) (v : Value) :
    FailsForeseen (textOf limit root.store v) := by
  cases v with
  | scalar s => exact s.failsForeseen_text _
  | node id =>
    rw [textOf]
    split
    · exact .ok _
    · exact .ok _
    · exact (failsForeseen_writeTasks h [] ⟨"", 0⟩ [.value (.node id)]).map (·.text)

/-! ## 4. Conditions -/

theorem Literal.failsForeseen_equals {root : Root} (h : root.IsPlain) (l : Literal) (v : Value) :
    FailsForeseen (l.equals limit root.store v) := by
  have htext : FailsForeseen (do return (← textOf limit root.store v) == l.raw) :=
    (failsForeseen_textOf h v).bind fun text => .ok _
  cases v with
  | node id => exact htext
  | scalar s =>
    unfold equals
    dsimp only
    split
    · exact .ok true
    · exact htext

theorem Condition.failsForeseen_holds {root : Root} (h : root.IsPlain) (c : Condition) (v : Value) :
    FailsForeseen (c.holds limit root.store v) := by
  unfold holds
  split
  · exact .ok true
  · exact .anyOk fun l _ => l.failsForeseen_equals h v
  · exact (failsForeseen_textOf h v).bind fun _ => .ok _
  · exact Literal.failsForeseen_equals h _ v
  · exact (Literal.failsForeseen_equals h _ v).bind fun _ => .ok _
  · split
    · exact .anyOk fun item _ => Literal.failsForeseen_equals h _ item
    · exact (failsForeseen_textOf h v).bind fun _ => .ok _
  · split
    · exact .ok false
    · exact (Scalar.failsForeseen_asNumber _).bind fun x =>
        (Scalar.failsForeseen_asNumber _).bind fun y => .ok _

/-- A condition that asks plain documents fails in a foreseen way or not at all. -/
theorem Matcher.failsForeseen_holds (m : Matcher) {documents : List Root}
    (h : ∀ root ∈ documents, root.IsPlain) : FailsForeseen (m.holds limit documents) := by
  refine .anyOk fun root hroot => ?_
  split
  · exact .ok _
  · exact .anyOk fun v _ => Condition.failsForeseen_holds (h root hroot) _ v

end FileQuery.Document
