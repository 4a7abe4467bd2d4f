import Mathlib.Order.Monotone.Defs
import Mathlib.Data.Bool.Basic
import Mathlib.Order.Lattice
import Mathlib.Tactic.Lemma

/-! Boolean formulas over a preorder. A comparison with a constant is monotone or antitone as its
side is, and the connectives keep that. -/

namespace MonotoneBool

universe u v

variable {α : Type u} {β : Type v} [Preorder α] [Preorder β] {f g : α → Bool} {value : α → β}

lemma antitone_iff : Antitone f ↔ ∀ ⦃a b⦄, a ≤ b → f b = true → f a = true := by
  constructor
  · intro anti a b le holds
    exact Bool.le_iff_imp.mp (anti le) holds
  · intro imp a b le
    exact Bool.le_iff_imp.mpr (imp le)

lemma monotone_iff : Monotone f ↔ ∀ ⦃a b⦄, a ≤ b → f a = true → f b = true := by
  constructor
  · intro mono a b le holds
    exact Bool.le_iff_imp.mp (mono le) holds
  · intro imp a b le
    exact Bool.le_iff_imp.mpr (imp le)

/-! ### Comparisons -/

lemma lt_antitone [DecidableLT β] (rises : Monotone value) (bound : β) :
    Antitone fun a => decide (value a < bound) :=
  antitone_iff.mpr fun _ _ le holds =>
    decide_eq_true ((rises le).trans_lt (of_decide_eq_true holds))

lemma lt_monotone [DecidableLT β] (falls : Antitone value) (bound : β) :
    Monotone fun a => decide (value a < bound) :=
  monotone_iff.mpr fun _ _ le holds =>
    decide_eq_true ((falls le).trans_lt (of_decide_eq_true holds))

lemma gt_monotone [DecidableLT β] (rises : Monotone value) (bound : β) :
    Monotone fun a => decide (value a > bound) :=
  monotone_iff.mpr fun _ _ le holds =>
    decide_eq_true ((of_decide_eq_true holds).trans_le (rises le))

lemma gt_antitone [DecidableLT β] (falls : Antitone value) (bound : β) :
    Antitone fun a => decide (value a > bound) :=
  antitone_iff.mpr fun _ _ le holds =>
    decide_eq_true ((of_decide_eq_true holds).trans_le (falls le))

/-! ### Connectives -/

lemma and_antitone (hf : Antitone f) (hg : Antitone g) : Antitone fun a => f a && g a :=
  antitone_iff.mpr fun _ _ le holds => by
    rw [Bool.and_eq_true] at holds ⊢
    exact ⟨antitone_iff.mp hf le holds.1, antitone_iff.mp hg le holds.2⟩

lemma or_antitone (hf : Antitone f) (hg : Antitone g) : Antitone fun a => f a || g a :=
  antitone_iff.mpr fun _ _ le holds => by
    rw [Bool.or_eq_true] at holds ⊢
    exact holds.imp (fun h => antitone_iff.mp hf le h) fun h => antitone_iff.mp hg le h

lemma and_monotone (hf : Monotone f) (hg : Monotone g) : Monotone fun a => f a && g a :=
  monotone_iff.mpr fun _ _ le holds => by
    rw [Bool.and_eq_true] at holds ⊢
    exact ⟨monotone_iff.mp hf le holds.1, monotone_iff.mp hg le holds.2⟩

lemma or_monotone (hf : Monotone f) (hg : Monotone g) : Monotone fun a => f a || g a :=
  monotone_iff.mpr fun _ _ le holds => by
    rw [Bool.or_eq_true] at holds ⊢
    exact holds.imp (fun h => monotone_iff.mp hf le h) fun h => monotone_iff.mp hg le h

lemma not_antitone (hf : Monotone f) : Antitone fun a => !f a :=
  antitone_iff.mpr fun _ _ le holds => by
    rw [Bool.not_eq_true'] at holds ⊢
    by_contra some
    have later := monotone_iff.mp hf le (Bool.not_eq_false _ ▸ some)
    rw [holds] at later
    cases later

lemma not_monotone (hf : Antitone f) : Monotone fun a => !f a :=
  monotone_iff.mpr fun _ _ le holds => by
    rw [Bool.not_eq_true'] at holds ⊢
    by_contra some
    have earlier := antitone_iff.mp hf le (Bool.not_eq_false _ ▸ some)
    rw [holds] at earlier
    cases earlier

/-! ### Branches -/

variable {p : α → Prop} [DecidablePred p]

/-- A condition that does not change. -/
lemma ite_antitone (same : ∀ ⦃a b⦄, a ≤ b → (p a ↔ p b)) (hf : Antitone f) (hg : Antitone g) :
    Antitone fun a => if p a then f a else g a := by
  intro a b le
  by_cases holds : p b
  · simp only [if_pos holds, if_pos ((same le).mpr holds)]
    exact hf le
  · simp only [if_neg holds, if_neg fun h => holds ((same le).mp h)]
    exact hg le

/-- A condition under which nothing is said, and that only arises upwards. -/
lemma unless_antitone (rises : ∀ ⦃a b⦄, a ≤ b → p a → p b) (hg : Antitone g) :
    Antitone fun a => if p a then false else g a := by
  intro a b le
  by_cases holds : p b
  · simp only [if_pos holds]
    exact Bool.false_le _
  · simp only [if_neg holds, if_neg fun h => holds (rises le h)]
    exact hg le

end MonotoneBool
