import Mathlib.Algebra.Order.BigOperators.Group.List
import Mathlib.Algebra.Order.Ring.Int
import Mathlib.Data.List.Chain

/-! A trail follows a partial step. What it collects is the rise of a level between its ends. -/

namespace Trail

universe u

variable {α : Type u}

/-- From the first node over the nodes that are left to the last one. -/
inductive Follows (next : α → Option α) : α → List α → α → Prop
  | stop (a : α) : Follows next a [] a
  | leave {a b c : α} {path : List α} : next a = some b → Follows next b path c →
      Follows next a (a :: path) c

variable {next : α → Option α} {a b : α} {path : List α}

/-- What a step keeps holds on the whole trail. -/
lemma Follows.keeps {P : α → Prop} (step : ∀ a b, next a = some b → P a → P b)
    (trail : Follows next a path b) (holds : P a) : (∀ v ∈ path, P v) ∧ P b := by
  induction trail with
  | stop a => exact ⟨fun v mem => absurd mem List.not_mem_nil, holds⟩
  | leave first _ ih =>
    obtain ⟨later, last⟩ := ih (step _ _ first holds)
    exact ⟨List.forall_mem_cons.mpr ⟨holds, later⟩, last⟩

/-- The costs telescope. -/
lemma Follows.total {cost : α → ℕ} {level : α → ℤ}
    (step : ∀ a b, next a = some b → level b = level a + cost a)
    (trail : Follows next a path b) : level b = level a + (path.map cost).sum := by
  induction trail with
  | stop a => simp
  | leave first _ ih =>
    rw [ih, step _ _ first, List.map_cons, List.sum_cons]
    rw [Int.natCast_add, Int.add_assoc]

/-- Where every step rises, the trail rises all along. -/
lemma Follows.rising (level : α → ℤ) (step : ∀ a b, next a = some b → level a < level b)
    (trail : Follows next a path b) :
    (path ++ [b]).Pairwise fun v w => level v < level w := by
  have above : ∀ a path b, Follows next a path b → ∀ v ∈ path ++ [b], level a ≤ level v := by
    intro a path b trail
    induction trail with
    | stop a => simp
    | leave first _ ih =>
      rw [List.cons_append, List.forall_mem_cons]
      exact ⟨le_rfl, fun v mem => (step _ _ first).le.trans (ih v mem)⟩
  induction trail with
  | stop a => simp
  | leave first rest ih =>
    rw [List.cons_append, List.pairwise_cons]
    exact ⟨fun v mem => (step _ _ first).trans_le (above _ _ _ rest v mem), ih⟩

end Trail
