import Mathlib.Data.List.Basic
import Mathlib.Logic.Function.Basic
import Mathlib.Tactic.Lemma
import Mathlib.Tactic.Use

/-! Worklist searches that mark a node when they discover it.
A popped node scans a fixed candidate list; every fresh candidate joined to it is
marked and pushed, so no node is pushed twice and the number of nodes bounds the
number of pops. Fuel is explicit and is shown to be enough, never assumed. -/

namespace Worklist

universe u

/-- `enter` runs when a node is popped, `discover` on each of its candidates. -/
structure Machine (σ : Type u) where
  enter : σ → Nat → σ
  discover : σ → Nat → Nat → Option σ

variable {σ : Type u}

def scan (M : Machine σ) (source : Nat) : List Nat → σ → List Nat → σ × List Nat
  | [], st, stack => (st, stack)
  | c :: rest, st, stack =>
    match M.discover st source c with
    | none => scan M source rest st stack
    | some st' => scan M source rest st' (c :: stack)

def pop (M : Machine σ) (candidates : List Nat) (st : σ) (source : Nat)
    (stack : List Nat) : σ × List Nat :=
  scan M source candidates (M.enter st source) stack

def drain (M : Machine σ) (candidates : List Nat) : Nat → σ → List Nat → σ
  | 0, st, _ => st
  | _ + 1, st, [] => st
  | fuel + 1, st, source :: stack =>
    let next := pop M candidates st source stack
    drain M candidates fuel next.1 next.2

/-- The marks of a machine: only a discovery adds one, and only on a fresh node. -/
structure Marks (M : Machine σ) (seen : σ → Nat → Bool) : Prop where
  enter : ∀ st s v, seen (M.enter st s) v = seen st v
  fresh : ∀ st s c st', M.discover st s c = some st' → seen st c = false
  mark : ∀ st s c st', M.discover st s c = some st' →
    ∀ v, seen st' v = (seen st v || v == c)

/-- How many of the candidates are still unmarked. -/
def unseen (seen : σ → Nat → Bool) (candidates : List Nat) (st : σ) : Nat :=
  candidates.countP fun v => !seen st v

lemma countP_mark {candidates : List Nat} (nodup : candidates.Nodup) {c : Nat}
    (hc : c ∈ candidates) {before after : Nat → Bool} (fresh : before c = false)
    (mark : ∀ v, after v = (before v || v == c)) :
    candidates.countP (fun v => !after v) + 1 = candidates.countP fun v => !before v := by
  induction candidates with
  | nil => cases hc
  | cons a rest ih =>
    obtain ⟨ha, hrest⟩ := List.nodup_cons.mp nodup
    rcases List.mem_cons.mp hc with rfl | hc
    · have same : rest.countP (fun v => !after v) = rest.countP fun v => !before v := by
        apply List.countP_congr
        intro v hv
        have hne : v ≠ c := fun h => ha (h ▸ hv)
        simp [mark, hne]
      rw [List.countP_cons, List.countP_cons, same]
      simp [mark, fresh]
    · have hne : a ≠ c := fun h => ha (h ▸ hc)
      have step := ih hrest hc
      simp only [List.countP_cons, mark a, beq_eq_false_iff_ne.mpr hne, Bool.or_false]
      omega

section Fuel

variable {M : Machine σ} {seen : σ → Nat → Bool} {candidates : List Nat}

/-- A scan trades unmarked candidates for stack entries, one for one. -/
lemma scan_balance (marks : Marks M seen) (nodup : candidates.Nodup) (source : Nat)
    (rest : List Nat) (inside : ∀ c ∈ rest, c ∈ candidates) (st : σ) (stack : List Nat) :
    unseen seen candidates (scan M source rest st stack).1 +
        (scan M source rest st stack).2.length =
      unseen seen candidates st + stack.length := by
  induction rest generalizing st stack with
  | nil => rfl
  | cons c rest ih =>
    have inside' : ∀ v ∈ rest, v ∈ candidates := fun v hv => inside v (List.mem_cons_of_mem c hv)
    cases hd : M.discover st source c with
    | none => simpa only [scan, hd] using ih inside' st stack
    | some st' =>
      have step := ih inside' st' (c :: stack)
      have drop := countP_mark nodup (inside c List.mem_cons_self)
        (marks.fresh st source c st' hd) (marks.mark st source c st' hd)
      simp only [scan, hd, List.length_cons, unseen] at step ⊢
      omega

lemma pop_balance (marks : Marks M seen) (nodup : candidates.Nodup) (st : σ)
    (source : Nat) (stack : List Nat) :
    unseen seen candidates (pop M candidates st source stack).1 +
        (pop M candidates st source stack).2.length =
      unseen seen candidates st + stack.length := by
  have same : unseen seen candidates (M.enter st source) = unseen seen candidates st := by
    simp only [unseen, marks.enter]
  have step := scan_balance marks nodup source candidates (fun _ h => h)
    (M.enter st source) stack
  simpa only [pop, same] using step

/-- What every pop preserves holds when the stack has run empty, and the fuel that
covers the stack and the unmarked candidates lets it run empty. -/
theorem drain_invariant (marks : Marks M seen) (nodup : candidates.Nodup)
    (P : σ → List Nat → Prop)
    (step : ∀ st source stack, P st (source :: stack) →
      P (pop M candidates st source stack).1 (pop M candidates st source stack).2)
    (fuel : Nat) (st : σ) (stack : List Nat)
    (enough : unseen seen candidates st + stack.length ≤ fuel) (start : P st stack) :
    P (drain M candidates fuel st stack) [] := by
  induction fuel generalizing st stack with
  | zero =>
    have hempty : stack = [] := List.length_eq_zero_iff.mp (by omega)
    subst hempty
    exact start
  | succ fuel ih =>
    cases stack with
    | nil => exact start
    | cons source stack =>
      have balance := pop_balance marks nodup st source stack
      simp only [List.length_cons] at enough
      exact ih _ _ (by omega) (step st source stack start)

/-- More fuel than that changes nothing. -/
theorem drain_extra_fuel (marks : Marks M seen) (nodup : candidates.Nodup)
    (fuel extra : Nat) (st : σ) (stack : List Nat)
    (enough : unseen seen candidates st + stack.length ≤ fuel) :
    drain M candidates (fuel + extra) st stack = drain M candidates fuel st stack := by
  induction fuel generalizing st stack with
  | zero =>
    have hempty : stack = [] := List.length_eq_zero_iff.mp (by omega)
    subst hempty
    cases extra with
    | zero => rfl
    | succ extra => simp [drain]
  | succ fuel ih =>
    cases stack with
    | nil => simp [drain, Nat.add_right_comm]
    | cons source stack =>
      have balance := pop_balance marks nodup st source stack
      simp only [List.length_cons] at enough
      simp only [Nat.add_right_comm fuel 1 extra, drain]
      exact ih _ _ (by omega)

end Fuel

/-- The scan rule: `Q` holds before each candidate and after the last one. -/
lemma scan_induct {M : Machine σ} {source : Nat} (Q : List Nat → σ → List Nat → Prop)
    (skip : ∀ c rest st stack, Q (c :: rest) st stack → M.discover st source c = none →
      Q rest st stack)
    (take : ∀ c rest st stack st', Q (c :: rest) st stack →
      M.discover st source c = some st' → Q rest st' (c :: stack))
    (candidates : List Nat) (st : σ) (stack : List Nat) (start : Q candidates st stack) :
    Q [] (scan M source candidates st stack).1 (scan M source candidates st stack).2 := by
  induction candidates generalizing st stack with
  | nil => exact start
  | cons c rest ih =>
    cases hd : M.discover st source c with
    | none => simpa only [scan, hd] using ih st stack (skip c rest st stack start hd)
    | some st' =>
      simpa only [scan, hd] using ih st' (c :: stack) (take c rest st stack st' start hd)

/-- What `enter` and `discover` preserve, whatever the stack, a whole search preserves. -/
lemma drain_preserves {M : Machine σ} (P : σ → Prop) (candidates : List Nat)
    (enter : ∀ st s, P st → P (M.enter st s))
    (discover : ∀ st s c st', c ∈ candidates → P st → M.discover st s c = some st' → P st')
    (fuel : Nat) (st : σ) (stack : List Nat) (start : P st) :
    P (drain M candidates fuel st stack) := by
  induction fuel generalizing st stack with
  | zero => exact start
  | succ fuel ih =>
    cases stack with
    | nil => exact start
    | cons source stack =>
      refine ih _ _ ?_
      have scanned := @scan_induct σ M source
        (fun rest st _ => P st ∧ ∀ c ∈ rest, c ∈ candidates)
        (fun c rest _ _ h _ => ⟨h.1, fun v listed => h.2 v (List.mem_cons_of_mem c listed)⟩)
        (fun c rest st _ st' h hd => ⟨discover st source c st' (h.2 c List.mem_cons_self) h.1 hd,
          fun v listed => h.2 v (List.mem_cons_of_mem c listed)⟩)
        candidates (M.enter st source) stack ⟨enter st source start, fun _ listed => listed⟩
      exact scanned.1

end Worklist
