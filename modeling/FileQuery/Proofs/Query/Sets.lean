import FileQuery.Query.Canonical
import Mathlib.Tactic.Basic

/-!
# Sets of values

A set holds each of its members once and in the order of their texts, so it does not change when it is
made into a set again.
-/

namespace FileQuery.Query

theorem pairwise_inTextOrder {α : Type} (text : α → String) (items : List α) :
    (inTextOrder text items).Pairwise fun x y => decide (text x ≤ text y) = true := by
  refine List.pairwise_mergeSort (fun x y z => ?_) (fun x y => ?_) items
  · simp only [decide_eq_true_eq]
    exact String.le_trans
  · simp only [Bool.or_eq_true, decide_eq_true_eq]
    exact String.le_total _ _

variable {α : Type} [BEq α] [LawfulBEq α]

theorem nodup_eraseDups (items : List α) : items.eraseDups.Nodup := by
  -- on the length, since the rest is filtered before it is gone through
  induction hn : items.length using Nat.strongRecOn generalizing items with
  | _ n ih =>
    cases items with
    | nil => exact List.nodup_nil
    | cons x items =>
      have hlength := List.length_filter_le (fun y => !y == x) items
      rw [List.length_cons] at hn
      rw [List.eraseDups_cons, List.nodup_cons, List.mem_eraseDups]
      exact ⟨by simp, ih _ (by omega) _ rfl⟩

theorem eraseDups_of_nodup {items : List α} (h : items.Nodup) : items.eraseDups = items := by
  induction items with
  | nil => rfl
  | cons x items ih =>
    rw [List.nodup_cons] at h
    have hfilter : items.filter (fun y => !y == x) = items := by
      rw [List.filter_eq_self]
      intro y hy
      simp only [Bool.not_eq_true', beq_eq_false_iff_ne]
      rintro rfl
      exact h.1 hy
    rw [List.eraseDups_cons, hfilter, ih h.2]

theorem mem_asSet {text : α → String} {items : List α} {x : α} :
    x ∈ asSet text items ↔ x ∈ items := by
  rw [asSet, inTextOrder, List.mem_mergeSort, List.mem_eraseDups]

theorem asSet_ne_nil {text : α → String} {items : List α} (h : items ≠ []) :
    asSet text items ≠ [] := by
  obtain ⟨x, hx⟩ := List.exists_mem_of_ne_nil items h
  exact List.ne_nil_of_mem (mem_asSet.2 hx)

/-- A set made into a set is the same set. -/
theorem asSet_asSet (text : α → String) (items : List α) :
    asSet text (asSet text items) = asSet text items := by
  have hnodup : (asSet text items).Nodup :=
    (List.mergeSort_perm _ _).nodup_iff.2 (nodup_eraseDups items)
  have hsorted := pairwise_inTextOrder text items.eraseDups
  -- nothing is erased the second time, and what is sorted stays as it is
  rw [asSet, eraseDups_of_nodup hnodup]
  exact List.mergeSort_of_pairwise hsorted

end FileQuery.Query
