import Mathlib.Order.Lattice
import Mathlib.Data.Set.Basic
import Mathlib.Order.Defs.LinearOrder
import Mathlib.Tactic.Lemma

/-! Upper and lower envelopes of a function, each taken over a window around a point, and then drawn
together over the points nearby. They do not cross as long as the windows of nearby points meet. -/

namespace Envelope

universe u v

variable {κ : Type u} {α : Type v} [LinearOrder α]

lemma foldl_max_le {value : κ → α} {points : List κ} {start bound : α} (first : start ≤ bound)
    (each : ∀ p ∈ points, value p ≤ bound) :
    points.foldl (fun highest p => max highest (value p)) start ≤ bound := by
  induction points generalizing start with
  | nil => exact first
  | cons p rest ih =>
    obtain ⟨here, later⟩ := List.forall_mem_cons.mp each
    exact ih (max_le first here) later

lemma le_foldl_min {value : κ → α} {points : List κ} {start bound : α} (first : bound ≤ start)
    (each : ∀ p ∈ points, bound ≤ value p) :
    bound ≤ points.foldl (fun lowest p => min lowest (value p)) start := by
  induction points generalizing start with
  | nil => exact first
  | cons p rest ih =>
    obtain ⟨here, later⟩ := List.forall_mem_cons.mp each
    exact ih (le_min first here) later

lemma start_le_foldl_max (value : κ → α) (points : List κ) (start : α) :
    start ≤ points.foldl (fun highest p => max highest (value p)) start := by
  induction points generalizing start with
  | nil => exact le_rfl
  | cons p rest ih => exact (le_max_left _ _).trans (ih _)

lemma foldl_min_le_start (value : κ → α) (points : List κ) (start : α) :
    points.foldl (fun lowest p => min lowest (value p)) start ≤ start := by
  induction points generalizing start with
  | nil => exact le_rfl
  | cons p rest ih => exact (ih _).trans (min_le_left _ _)

lemma le_foldl_max (value : κ → α) {points : List κ} (start : α) {p : κ} (mem : p ∈ points) :
    value p ≤ points.foldl (fun highest p => max highest (value p)) start := by
  induction points generalizing start with
  | nil => cases mem
  | cons q rest ih =>
    rcases List.mem_cons.mp mem with rfl | later
    · exact (le_max_right _ _).trans (start_le_foldl_max value rest _)
    · exact ih _ later

lemma foldl_min_le (value : κ → α) {points : List κ} (start : α) {p : κ} (mem : p ∈ points) :
    points.foldl (fun lowest p => min lowest (value p)) start ≤ value p := by
  induction points generalizing start with
  | nil => cases mem
  | cons q rest ih =>
    rcases List.mem_cons.mp mem with rfl | later
    · exact (foldl_min_le_start value rest _).trans (min_le_right _ _)
    · exact ih _ later

/-- `lower` and `upper` enclose the function on the window of each point. -/
def Encloses (value : κ → α) (window : κ → Set κ) (lower upper : κ → α) : Prop :=
  ∀ p, ∀ r ∈ window p, lower p ≤ value r ∧ value r ≤ upper p

/-- Where any two of the nearby windows meet, the highest lower bound nearby is not above the lowest
upper bound. -/
theorem foldl_max_le_foldl_min {value lower upper : κ → α} {window : κ → Set κ}
    (encloses : Encloses value window lower upper) {p : κ} {near : List κ}
    (meet : ∀ a ∈ p :: near, ∀ b ∈ p :: near, (window a ∩ window b).Nonempty) :
    near.foldl (fun highest q => max highest (lower q)) (lower p) ≤
      near.foldl (fun lowest q => min lowest (upper q)) (upper p) := by
  have apart : ∀ a ∈ p :: near, ∀ b ∈ p :: near, lower a ≤ upper b := by
    intro a memA b memB
    obtain ⟨r, inA, inB⟩ := meet a memA b memB
    exact (encloses a r inA).1.trans (encloses b r inB).2
  have here : p ∈ p :: near := List.mem_cons_self
  refine foldl_max_le (le_foldl_min (apart p here p here) fun b memB => ?_) fun a memA =>
    le_foldl_min (apart a (List.mem_cons_of_mem p memA) p here) fun b memB => ?_
  · exact apart p here b (List.mem_cons_of_mem p memB)
  · exact apart a (List.mem_cons_of_mem p memA) b (List.mem_cons_of_mem p memB)

end Envelope
