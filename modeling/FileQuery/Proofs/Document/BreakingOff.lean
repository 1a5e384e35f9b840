import FileQuery.Document.Reader
import FileQuery.Proofs.Result

/-!
# Readings that break off

The readers of documents fail with a fault of the document, or they break off at a value that they do
not foresee.  How a step can break off follows from how its parts can.
-/

namespace FileQuery.Document

variable {α β : Type} {P : BadValue → Prop}

/-- A step that breaks off only at values of a kind, if at all. -/
def BreaksAt (P : BadValue → Prop) (r : Except ReadFault α) : Prop :=
  ∀ v, r = .error (.badValue v) → P v

namespace BreaksAt

theorem ok (a : α) : BreaksAt P (.ok a) := nofun

theorem malformed : BreaksAt P (.error .malformed : Except ReadFault α) := nofun

theorem tooDeep : BreaksAt P (.error .tooDeep : Except ReadFault α) := nofun

theorem badValue {v : BadValue} (h : P v) :
    BreaksAt P (.error (.badValue v) : Except ReadFault α) := by
  rintro _ ⟨⟩
  exact h

/-- A fault that is passed on is that of the step before. -/
theorem passed {r : Except ReadFault α} {fault : ReadFault} (h : BreaksAt P r)
    (hr : r = .error fault) : BreaksAt P (.error fault : Except ReadFault β) := by
  rintro v ⟨⟩
  exact h v hr

theorem bind {x : Except ReadFault α} {f : α → Except ReadFault β} (hx : BreaksAt P x)
    (hf : ∀ a, BreaksAt P (f a)) : BreaksAt P (x >>= f) := by
  cases x with
  | error fault => exact hx.passed rfl
  | ok a => exact hf a

theorem map {x : Except ReadFault α} (hx : BreaksAt P x) (f : α → β) : BreaksAt P (x.map f) := by
  intro v h
  exact hx v (map_eq_error.1 h)

end BreaksAt

end FileQuery.Document
