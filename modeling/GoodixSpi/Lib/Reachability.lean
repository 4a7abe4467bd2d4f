import Mathlib.Tactic.Lemma

/-! States reached by steps that may fail, every step of which was allowed. -/

namespace Reachability

universe u v

variable {State : Type u} {Action : Type v}

inductive Reaches (step : State → Action → Option State) (allowed : State → Action → Prop)
    (start : State) : State → Prop
  | start : Reaches step allowed start start
  | step {before after : State} {action : Action} (earlier : Reaches step allowed start before)
      (permitted : allowed before action) (succeeds : step before action = some after) :
      Reaches step allowed start after

/-- The state after a list of steps, if every one of them succeeds. -/
def run (step : State → Action → Option State) : State → List Action → Option State
  | state, [] => some state
  | state, action :: rest =>
    match step state action with
    | none => none
    | some next => run step next rest

variable {step : State → Action → Option State} {allowed allowed' : State → Action → Prop}
  {start state : State}

lemma run_of_step {next : State} {action : Action} {rest : List Action}
    (succeeds : step state action = some next) :
    run step state (action :: rest) = run step next rest := by
  rw [run, succeeds]

lemma run_append (state : State) (actions later : List Action) :
    run step state (actions ++ later) =
      (run step state actions).bind fun next => run step next later := by
  induction actions generalizing state with
  | nil => rfl
  | cons action rest ih =>
    rw [List.cons_append, run, run]
    cases step state action with
    | none => rfl
    | some next => exact ih next

/-- What the start has and every allowed step preserves, every reached state has. -/
theorem Reaches.invariant (holds : State → Prop) (h : Reaches step allowed start state)
    (initially : holds start)
    (preserved : ∀ before action after, holds before → allowed before action →
      step before action = some after → holds after) : holds state := by
  induction h with
  | start => exact initially
  | step _ permitted succeeds ih => exact preserved _ _ _ ih permitted succeeds

/-- A run under a narrower permission is a run under a wider one. -/
theorem Reaches.mono (h : Reaches step allowed start state)
    (wider : ∀ before action, allowed before action → allowed' before action) :
    Reaches step allowed' start state := by
  induction h with
  | start => exact .start
  | step _ permitted succeeds ih => exact .step ih (wider _ _ permitted) succeeds

/-- An invariant of a run may be read off at each of its steps. -/
theorem Reaches.annotate (holds : State → Prop) (h : Reaches step allowed start state)
    (initially : holds start)
    (preserved : ∀ before action after, holds before → allowed before action →
      step before action = some after → holds after) :
    Reaches step (fun before action => allowed before action ∧ holds before) start state := by
  induction h with
  | start => exact .start
  | step earlier permitted succeeds ih =>
    exact .step ih ⟨permitted, earlier.invariant holds initially preserved⟩ succeeds

theorem Reaches.run {actions : List Action} {state final : State}
    (h : Reaches step allowed start state)
    (permitted : ∀ before, ∀ action ∈ actions, allowed before action)
    (runs : run step state actions = some final) : Reaches step allowed start final := by
  induction actions generalizing state with
  | nil =>
    cases runs
    exact h
  | cons action rest ih =>
    unfold Reachability.run at runs
    split at runs
    · cases runs
    · next next succeeds =>
      exact ih (.step h (permitted state action List.mem_cons_self) succeeds)
        (fun before later listed => permitted before later (List.mem_cons_of_mem action listed)) runs

end Reachability
