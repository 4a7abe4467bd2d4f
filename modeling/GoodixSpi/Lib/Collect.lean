import Mathlib.Tactic.Lemma
import Mathlib.Data.List.Basic

/-! Vectors read at the positions they have, and a vector of results each of which may be
missing. -/

namespace Collect

universe u

variable {α : Type u} {n : Nat}

@[simp] lemma get_ofFn (f : Fin n → α) (i : Fin n) : (Vector.ofFn f).get i = f i :=
  Vector.getElem_ofFn _

@[simp] lemma get_replicate (a : α) (i : Fin n) : (Vector.replicate n a).get i = a :=
  Vector.getElem_replicate _

lemma get_map {β : Type u} (f : α → β) (values : Vector α n) (i : Fin n) :
    (values.map f).get i = f (values.get i) := Vector.getElem_map _ _

/-- Read by its index after a write, as code reads an array. -/
lemma getD_setIfInBounds (values : Vector α n) (place : Nat) (a : α) (index : Nat) (missing : α) :
    (values.setIfInBounds place a).toList.getD index missing =
      if place = index ∧ place < n then a else values.toList.getD index missing := by
  simp only [Vector.toList_setIfInBounds, List.getD_eq_getElem?_getD, List.getElem?_set,
    Vector.length_toList]
  by_cases same : place = index
  · subst same
    by_cases inside : place < n
    · rw [if_pos rfl, if_pos inside, if_pos ⟨rfl, inside⟩]
      rfl
    · rw [if_pos rfl, if_neg inside, if_neg fun both => inside both.2,
        List.getElem?_eq_none (by rwa [Vector.length_toList, ← Nat.not_lt])]
  · rw [if_neg same, if_neg fun both => same both.1]

/-- All the results, if none is missing. -/
def collect (results : Fin n → Option α) : Option (Vector α n) :=
  if h : ∀ i, (results i).isSome = true then some (Vector.ofFn fun i => (results i).get (h i))
  else none

lemma collect_eq_some_iff {results : Fin n → Option α} {values : Vector α n} :
    collect results = some values ↔ ∀ i : Fin n, results i = some (values.get i) := by
  unfold collect
  constructor
  · intro found i
    split at found
    · next present =>
      rw [Option.some.injEq] at found
      rw [← found, get_ofFn, Option.some_get]
    · cases found
  · intro each
    have present : ∀ i, (results i).isSome = true := fun i => by rw [each i]; rfl
    rw [dif_pos present, Option.some.injEq]
    ext index inside
    rw [Vector.getElem_ofFn, Option.get_of_mem _ (each ⟨index, inside⟩)]
    rfl

lemma collect_isSome {results : Fin n → Option α} (present : ∀ i, (results i).isSome = true) :
    (collect results).isSome = true := by
  rw [collect, dif_pos present, Option.isSome_some]

lemma collect_eq_none {results : Fin n → Option α} {i : Fin n} (missing : results i = none) :
    collect results = none := by
  rw [collect, dif_neg]
  intro present
  have here := present i
  rw [missing] at here
  cases here

end Collect
