import Mathlib.Tactic.Lemma

/-! Loops over a list that may return before its end. -/

namespace EarlyExit

universe u v w x

variable {State : Type u} {Item : Type v} {Result : Type w}

/-- What one round of a loop does: it goes on with a new state, or it returns. -/
inductive Step (State : Type u) (Result : Type w)
  | next (state : State)
  | stop (result : Result)
deriving DecidableEq

/-- The state has one property, or the result has another. -/
def Step.Meets (holds : State → Prop) (granted : Result → Prop) : Step State Result → Prop
  | .next state => holds state
  | .stop result => granted result

def run (body : State → Item → Step State Result) : List Item → State → Step State Result
  | [], state => .next state
  | item :: rest, state =>
    match body state item with
    | .next state => run body rest state
    | .stop result => .stop result

variable {body : State → Item → Step State Result}

lemma run_next {state state' : State} {item : Item} (round : body state item = .next state')
    (rest : List Item) : run body (item :: rest) state = run body rest state' := by
  change (match body state item with
    | .next state => run body rest state
    | .stop result => .stop result) = _
  rw [round]

lemma run_stop {state : State} {item : Item} {result : Result}
    (round : body state item = .stop result) (rest : List Item) :
    run body (item :: rest) state = .stop result := by
  change (match body state item with
    | .next state => run body rest state
    | .stop result => .stop result) = _
  rw [round]

lemma run_append (first second : List Item) (state : State) :
    run body (first ++ second) state =
      match run body first state with
      | .next state => run body second state
      | .stop result => .stop result := by
  induction first generalizing state with
  | nil => rfl
  | cons item rest ih =>
    cases round : body state item with
    | next state' => rw [List.cons_append, run_next round, run_next round, ih]
    | stop result => rw [List.cons_append, run_stop round, run_stop round]

lemma run_map {Source : Type x} (f : Source → Item) (items : List Source) (state : State) :
    run body (items.map f) state = run (fun state item => body state (f item)) items state := by
  induction items generalizing state with
  | nil => rfl
  | cons item rest ih =>
    cases round : body state (f item) with
    | next state' =>
      rw [List.map_cons, run_next round, ih]
      exact (@run_next _ _ _ (fun state item => body state (f item)) _ _ _ round rest).symm
    | stop result =>
      rw [List.map_cons, run_stop round]
      exact (@run_stop _ _ _ (fun state item => body state (f item)) _ _ _ round rest).symm

/-- A loop that returns does so in one round, after rounds that all went on. -/
theorem run_eq_stop {items : List Item} {state : State} {result : Result}
    (h : run body items state = .stop result) :
    ∃ before item after reached, items = before ++ item :: after ∧
      run body before state = .next reached ∧ body reached item = .stop result := by
  induction items generalizing state with
  | nil => cases h
  | cons item rest ih =>
    cases round : body state item with
    | next state' =>
      rw [run_next round] at h
      obtain ⟨before, last, after, reached, split, went, stopped⟩ := ih h
      refine ⟨item :: before, last, after, reached, by rw [split, List.cons_append], ?_, stopped⟩
      rw [run_next round]
      exact went
    | stop found =>
      rw [run_stop round] at h
      cases h
      exact ⟨[], item, rest, state, rfl, rfl, round⟩

/-- What holds of the items behind the loop holds of all of them at its end. -/
theorem run_meets_seen {holds : List Item → State → Prop} {granted : Result → Prop}
    (kept : ∀ seen state item, holds seen state →
      (body state item).Meets (holds (seen ++ [item])) granted)
    (items : List Item) {seen : List Item} {state : State} (initially : holds seen state) :
    (run body items state).Meets (holds (seen ++ items)) granted := by
  induction items generalizing seen state with
  | nil =>
    rw [List.append_nil]
    exact initially
  | cons item rest ih =>
    have once := kept seen state item initially
    cases round : body state item with
    | next state' =>
      rw [round] at once
      rw [run_next round]
      have later := ih once
      rw [List.append_assoc, List.singleton_append] at later
      exact later
    | stop result =>
      rw [round] at once
      rw [run_stop round]
      exact once

/-- What the whole loop has if every round has it. -/
theorem run_meets {holds : State → Prop} {granted : Result → Prop}
    (kept : ∀ state item, holds state → (body state item).Meets holds granted)
    (items : List Item) {state : State} (initially : holds state) :
    (run body items state).Meets holds granted :=
  @run_meets_seen _ _ _ body (fun _ => holds) granted (fun _ => kept) items [] state initially

/-- What is met at the start of every round that the loop makes. -/
def Throughout (body : State → Item → Step State Result) (meets : State → Item → Prop) :
    List Item → State → Prop
  | [], _ => True
  | item :: rest, state => meets state item ∧
      (body state item).Meets (Throughout body meets rest) fun _ => True

instance decidableMeets {holds : State → Prop} {granted : Result → Prop}
    [∀ state, Decidable (holds state)] [∀ result, Decidable (granted result)] :
    ∀ step : Step State Result, Decidable (step.Meets holds granted)
  | .next state => inferInstanceAs (Decidable (holds state))
  | .stop result => inferInstanceAs (Decidable (granted result))

instance decidableThroughout {meets : State → Item → Prop}
    [∀ state item, Decidable (meets state item)] :
    ∀ (items : List Item) (state : State), Decidable (Throughout body meets items state)
  | [], _ => inferInstanceAs (Decidable True)
  | item :: rest, state =>
    have : ∀ state, Decidable (Throughout body meets rest state) := decidableThroughout rest
    inferInstanceAs (Decidable (meets state item ∧ (body state item).Meets _ _))

/-- Rounds that meet the same are made, since the loop does not depend on it. -/
theorem throughout_congr {meets meets' : State → Item → Prop} {items : List Item}
    (same : ∀ state, ∀ item ∈ items, meets state item ↔ meets' state item) (state : State) :
    Throughout body meets items state ↔ Throughout body meets' items state := by
  induction items generalizing state with
  | nil => rfl
  | cons item rest ih =>
    refine and_congr (same state item List.mem_cons_self) ?_
    cases body state item with
    | next state => exact ih (fun state other listed => same state other (.tail _ listed)) state
    | stop result => rfl

lemma throughout_of_forall {meets : State → Item → Prop} {items : List Item}
    (all : ∀ state, ∀ item ∈ items, meets state item) (state : State) :
    Throughout body meets items state := by
  induction items generalizing state with
  | nil => trivial
  | cons item rest ih =>
    refine ⟨all state item List.mem_cons_self, ?_⟩
    cases body state item with
    | next state => exact ih (fun state other listed => all state other (.tail _ listed)) state
    | stop result => trivial

end EarlyExit
