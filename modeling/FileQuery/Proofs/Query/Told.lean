import FileQuery.Proofs.Query.Literal.Time
import FileQuery.Proofs.Query.NormalForm
import FileQuery.Query.Canonical

/-!
# What the text of a tree tells

The text of a tree tells everything but its moments, of which it tells only the reading and the offset
from a second on.  Reading it gives the tree with what is told of its moments; that is the tree itself
exactly if its moments are told, and the text does not change where their offsets are.
-/

namespace FileQuery.Query

def Operand.reread : Operand → Operand
  | .moment m => .moment (Query.reread m)
  | operand => operand

def Predicate.reread (p : Predicate) : Predicate := { p with operand := p.operand.reread }

mutual
def Expr.reread : Expr → Expr
  | .pred p => .pred p.reread
  | .known b => .known b
  | .not e => .not e.reread
  | .and es => .and (rereadAll es)
  | .or es => .or (rereadAll es)
def rereadAll : List Expr → List Expr
  | [] => []
  | e :: es => e.reread :: rereadAll es
end

/-- Whether the moments of a tree are all as `P` says. -/
def Expr.MomentsAre (P : Calendar.PlacedMoment → Prop) (e : Expr) : Prop :=
  ∀ p ∈ e.predicates, ∀ m, p.operand = .moment m → P m

theorem rereadAll_eq_map (es : List Expr) : rereadAll es = es.map Expr.reread := by
  induction es with
  | nil => rfl
  | cons e es ih => rw [rereadAll, ih, List.map_cons]

theorem junction?_reread (e : Expr) : e.reread.junction? = e.junction? := by
  cases e <;> simp [Expr.reread, Expr.junction?]

theorem isJoined_reread (e : Expr) : e.reread.isJoined = e.isJoined := by
  cases e <;> simp [Expr.reread, Expr.isJoined]

/-! ## 1. Trees that are told -/

theorem Predicate.reread_eq_iff {p : Predicate} :
    p.reread = p ↔ ∀ m, p.operand = .moment m → IsTold m := by
  obtain ⟨selector, operator, operand⟩ := p
  cases operand with
  | moment m =>
    simp only [Predicate.reread, Operand.reread, Predicate.mk.injEq, Operand.moment.injEq, true_and,
      forall_eq']
    exact Query.reread_eq_iff
  | _ => exact iff_of_true rfl nofun

section moments

variable {P : Calendar.PlacedMoment → Prop} {es : List Expr}

theorem momentsAre_pred {p : Predicate} :
    (Expr.pred p).MomentsAre P ↔ ∀ m, p.operand = .moment m → P m := by
  rw [Expr.MomentsAre, Expr.predicates, List.forall_mem_singleton]

theorem momentsAre_not {e : Expr} : (Expr.not e).MomentsAre P ↔ e.MomentsAre P := by
  rw [Expr.MomentsAre, Expr.predicates, Expr.MomentsAre]

theorem momentsAre_of_mem :
    (∀ e ∈ es, e.MomentsAre P) ↔ ∀ p ∈ predicatesOf es, ∀ m, p.operand = .moment m → P m := by
  constructor
  · intro h p hp
    obtain ⟨e, he, hmem⟩ := mem_predicatesOf.1 hp
    exact h e he p hmem
  · exact fun h e he p hp => h p (mem_predicatesOf.2 ⟨e, he, hp⟩)

theorem momentsAre_and : (Expr.and es).MomentsAre P ↔ ∀ e ∈ es, e.MomentsAre P := by
  rw [Expr.MomentsAre, Expr.predicates, momentsAre_of_mem]

theorem momentsAre_or : (Expr.or es).MomentsAre P ↔ ∀ e ∈ es, e.MomentsAre P := by
  rw [Expr.MomentsAre, Expr.predicates, momentsAre_of_mem]

end moments

mutual
theorem Expr.reread_eq_iff : ∀ e : Expr, e.reread = e ↔ e.MomentsAre IsTold
  | .pred p => by rw [Expr.reread, Expr.pred.injEq, Predicate.reread_eq_iff, momentsAre_pred]
  | .known b => by
    rw [Expr.MomentsAre, Expr.predicates]
    exact iff_of_true rfl (List.forall_mem_nil _)
  | .not e => by rw [Expr.reread, Expr.not.injEq, Expr.reread_eq_iff e, momentsAre_not]
  | .and es => by rw [Expr.reread, Expr.and.injEq, rereadAll_eq_iff es, momentsAre_and]
  | .or es => by rw [Expr.reread, Expr.or.injEq, rereadAll_eq_iff es, momentsAre_or]
theorem rereadAll_eq_iff : ∀ es : List Expr, rereadAll es = es ↔ ∀ e ∈ es, e.MomentsAre IsTold
  | [] => iff_of_true rfl nofun
  | e :: es => by
    rw [rereadAll, List.cons.injEq, Expr.reread_eq_iff e, rereadAll_eq_iff es, List.forall_mem_cons]
end

/-! ## 2. Their texts -/

theorem Predicate.text_reread {p : Predicate} (h : ∀ m, p.operand = .moment m → m.told = m.toMoment) :
    p.reread.text = p.text := by
  obtain ⟨selector, operator, operand⟩ := p
  cases operand with
  | moment m =>
    have hiso : (Query.reread m).toMoment.iso = m.iso := congrArg Calendar.Moment.iso (h m rfl)
    simp only [Predicate.reread, Operand.reread, Predicate.text, Operand.render, hiso]
  | _ => rfl

mutual
/-- A text is written for what is read from it if the offsets of its moments are told. -/
theorem Expr.text_reread : ∀ {e : Expr}, e.MomentsAre (fun m => m.told = m.toMoment) →
    e.reread.text = e.text
  | .pred p, h => Predicate.text_reread (momentsAre_pred.1 h)
  | .known _, _ => rfl
  | .not e, h => by
    rw [Expr.reread, Expr.text, Expr.text, Expr.text_reread (momentsAre_not.1 h), Expr.wrap,
      Expr.wrap, isJoined_reread]
  | .and es, h => by
    rw [Expr.reread, Expr.text, Expr.text, textsOf_reread (momentsAre_and.1 h)]
  | .or es, h => by
    rw [Expr.reread, Expr.text, Expr.text, textsOf_reread (momentsAre_or.1 h)]
theorem textsOf_reread : ∀ {es : List Expr},
    (∀ e ∈ es, e.MomentsAre fun m => m.told = m.toMoment) → textsOf (rereadAll es) = textsOf es
  | [], _ => rfl
  | e :: es, h => by
    rw [List.forall_mem_cons] at h
    rw [rereadAll, textsOf, textsOf, Expr.text_reread h.1, textsOf_reread h.2, Expr.wrap, Expr.wrap,
      isJoined_reread]
end

theorem Predicate.isWritable_reread (p : Predicate) : p.reread.isWritable = p.isWritable := by
  obtain ⟨selector, operator, operand⟩ := p
  cases operand <;> rfl

mutual
theorem Expr.predicates_reread : ∀ e : Expr,
    e.reread.predicates = e.predicates.map Predicate.reread
  | .pred _ => rfl
  | .known _ => rfl
  | .not e => by rw [Expr.reread, Expr.predicates, Expr.predicates, Expr.predicates_reread e]
  | .and es => by rw [Expr.reread, Expr.predicates, Expr.predicates, predicatesOf_reread es]
  | .or es => by rw [Expr.reread, Expr.predicates, Expr.predicates, predicatesOf_reread es]
theorem predicatesOf_reread : ∀ es : List Expr,
    predicatesOf (rereadAll es) = (predicatesOf es).map Predicate.reread
  | [] => rfl
  | e :: es => by
    rw [rereadAll, predicatesOf, predicatesOf, Expr.predicates_reread e, predicatesOf_reread es,
      List.map_append]
end

/-- The numbers of a tree are read back as they are, so what is read from its text can be written
too. -/
theorem Expr.canonical_reread {e : Expr} {text : String} (h : e.canonical = .ok text) :
    e.reread.canonical = .ok e.reread.text := by
  unfold Expr.canonical at h ⊢
  split at h
  · next hwritable =>
    rw [Expr.predicates_reread, List.all_map, if_pos]
    rw [← hwritable]
    exact congrArg _ (funext Predicate.isWritable_reread)
  · cases h

end FileQuery.Query
