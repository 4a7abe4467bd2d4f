import GoodixSpi.Lib.Worklist
import Mathlib.Logic.Relation

/-! What a worklist search reaches, and how far its stack grows. The edges are those of a fixed
relation: a machine that rewrites its graph while it searches has to say, as an invariant, that
it discovers along them all the same. -/

namespace Worklist

universe u

variable {σ : Type u}

/-- A step of the search leads to a candidate, along an edge. -/
def Step (edge : Nat → Nat → Prop) (candidates : List Nat) (a b : Nat) : Prop :=
  b ∈ candidates ∧ edge a b

/-- The nodes that are known are the start and the marked ones. -/
def Known (seen : σ → Nat → Bool) (start : Nat) (st : σ) (v : Nat) : Prop :=
  v = start ∨ seen st v = true

/-- Only the nodes on the stack may have unmarked neighbours. -/
structure Frontier (seen : σ → Nat → Bool) (edge : Nat → Nat → Prop) (candidates : List Nat)
    (start : Nat) (st : σ) (stack : List Nat) : Prop where
  pending : ∀ v ∈ stack, Known seen start st v
  sound : ∀ v, Known seen start st v → Relation.ReflTransGen (Step edge candidates) start v
  done : ∀ v, Known seen start st v → v ∉ stack → ∀ c ∈ candidates, edge v c → seen st c = true

/-- Under the invariant the machine discovers, from this source, exactly the unmarked neighbours. -/
structure Explores (M : Machine σ) (seen : σ → Nat → Bool) (edge : Nat → Nat → Prop)
    (candidates : List Nat) (start source : Nat) (Inv : σ → Prop) : Prop where
  enter : ∀ st, Inv st → Inv (M.enter st source)
  discover : ∀ st c st', c ∈ candidates → Known seen start st source → Inv st →
    M.discover st source c = some st' → Inv st'
  joined : ∀ st c, c ∈ candidates → Known seen start st source → Inv st →
    ((M.discover st source c).isSome = true ↔ seen st c = false ∧ edge source c)

variable {M : Machine σ} {seen : σ → Nat → Bool} {edge : Nat → Nat → Prop}
  {candidates : List Nat} {start : Nat} {Inv : σ → Prop}

/-- At the end the known nodes are the reachable ones. -/
lemma Frontier.reached {st : σ} (frontier : Frontier seen edge candidates start st []) {v : Nat} :
    Known seen start st v ↔ Relation.ReflTransGen (Step edge candidates) start v := by
  constructor
  · exact frontier.sound v
  · intro path
    induction path with
    | refl => exact .inl rfl
    | tail _ step ih => exact .inr (frontier.done _ ih List.not_mem_nil _ step.1 step.2)

/-- A search starts at its root alone. -/
lemma Frontier.root {st : σ} (fresh : ∀ v, seen st v = true → v = start) :
    Frontier seen edge candidates start st [start] where
  pending v listed := .inl (List.mem_singleton.mp listed)
  sound v known := by
    rcases known with rfl | marked
    · exact .refl
    · rw [fresh v marked]
  done v known unlisted := by
    rcases known with rfl | marked
    · exact (unlisted (List.mem_singleton_self _)).elim
    · exact (unlisted (List.mem_singleton.mpr (fresh v marked))).elim

/-- While a node is scanned its neighbours are marked or still to come. -/
structure Scanned (seen : σ → Nat → Bool) (edge : Nat → Nat → Prop) (candidates : List Nat)
    (start source : Nat) (rest : List Nat) (st : σ) (stack : List Nat) : Prop where
  known : Known seen start st source
  inside : ∀ c ∈ rest, c ∈ candidates
  pending : ∀ v ∈ stack, Known seen start st v
  sound : ∀ v, Known seen start st v → Relation.ReflTransGen (Step edge candidates) start v
  done : ∀ v, Known seen start st v → v ≠ source → v ∉ stack → ∀ c ∈ candidates, edge v c →
    seen st c = true
  scanned : ∀ c ∈ candidates, edge source c → c ∈ rest ∨ seen st c = true

lemma Scanned.skip {source c : Nat} {rest : List Nat} {st : σ} {stack : List Nat}
    (scan : Scanned seen edge candidates start source (c :: rest) st stack)
    (passed : edge source c → seen st c = true) :
    Scanned seen edge candidates start source rest st stack where
  known := scan.known
  inside v listed := scan.inside v (List.mem_cons_of_mem c listed)
  pending := scan.pending
  sound := scan.sound
  done := scan.done
  scanned v inside joined := by
    rcases scan.scanned v inside joined with listed | marked
    · rcases List.mem_cons.mp listed with rfl | later
      · exact .inr (passed joined)
      · exact .inl later
    · exact .inr marked

lemma Scanned.take {source c : Nat} {rest : List Nat} {st st' : σ} {stack : List Nat}
    (scan : Scanned seen edge candidates start source (c :: rest) st stack)
    (joined : edge source c) (mark : ∀ v, seen st' v = (seen st v || v == c)) :
    Scanned seen edge candidates start source rest st' (c :: stack) := by
  have grows : ∀ v, seen st v = true → seen st' v = true := by
    intro v marked
    rw [mark, marked, Bool.true_or]
  have keeps : ∀ v, Known seen start st v → Known seen start st' v :=
    fun v known => known.imp id (grows v)
  have splits : ∀ v, Known seen start st' v → v = c ∨ Known seen start st v := by
    rintro v (root | marked)
    · exact .inr (.inl root)
    · rw [mark, Bool.or_eq_true, beq_iff_eq] at marked
      exact marked.symm.imp id .inr
  refine ⟨keeps _ scan.known, fun v listed => scan.inside v (List.mem_cons_of_mem c listed), ?_, ?_,
    ?_, ?_⟩
  · intro v listed
    rcases List.mem_cons.mp listed with rfl | earlier
    · exact .inr (by rw [mark, beq_self_eq_true, Bool.or_true])
    · exact keeps v (scan.pending v earlier)
  · intro v known
    rcases splits v known with rfl | earlier
    · exact (scan.sound _ scan.known).tail ⟨scan.inside _ List.mem_cons_self, joined⟩
    · exact scan.sound v earlier
  · intro v known other unlisted w inside edge
    rw [List.mem_cons, not_or] at unlisted
    have earlier := (splits v known).resolve_left unlisted.1
    exact grows w (scan.done v earlier other unlisted.2 w inside edge)
  · intro v inside edge
    rcases scan.scanned v inside edge with listed | marked
    · rcases List.mem_cons.mp listed with rfl | later
      · exact .inr (by rw [mark, beq_self_eq_true, Bool.or_true])
      · exact .inl later
    · exact .inr (grows v marked)

/-- One pop keeps the frontier and the invariant, and leaves no neighbour of its source unmarked. -/
lemma pop_frontier {source : Nat} (marks : Marks M seen)
    (explores : Explores M seen edge candidates start source Inv) {st : σ} {stack : List Nat}
    (frontier : Frontier seen edge candidates start st (source :: stack)) (inv : Inv st) :
    (Frontier seen edge candidates start (pop M candidates st source stack).1
        (pop M candidates st source stack).2 ∧
      Inv (pop M candidates st source stack).1) ∧
      ∀ c ∈ candidates, edge source c → seen (pop M candidates st source stack).1 c = true := by
  have same : ∀ v, Known seen start (M.enter st source) v ↔ Known seen start st v := by
    intro v
    rw [Known, Known, marks.enter]
  have entered : Scanned seen edge candidates start source candidates (M.enter st source) stack := by
    refine ⟨(same _).mpr (frontier.pending _ List.mem_cons_self), fun _ listed => listed, ?_, ?_, ?_,
      fun _ inside _ => .inl inside⟩
    · exact fun v listed => (same v).mpr (frontier.pending v (List.mem_cons_of_mem _ listed))
    · exact fun v known => frontier.sound v ((same v).mp known)
    · intro v known other unlisted c inside joined
      rw [marks.enter]
      refine frontier.done v ((same v).mp known) ?_ c inside joined
      rw [List.mem_cons, not_or]
      exact ⟨other, unlisted⟩
  obtain ⟨scanned, kept⟩ := @scan_induct σ M source
    (fun rest st stack => Scanned seen edge candidates start source rest st stack ∧ Inv st)
    (by
      rintro c rest st stack ⟨scanned, inv⟩ none
      refine ⟨scanned.skip fun joined => ?_, inv⟩
      have exact_ := explores.joined st c (scanned.inside c List.mem_cons_self)
        scanned.known inv
      rw [none] at exact_
      by_contra fresh
      have found := exact_.mpr ⟨by simpa using fresh, joined⟩
      cases found)
    (by
      rintro c rest st stack st' ⟨scanned, inv⟩ some
      have inside := scanned.inside c List.mem_cons_self
      have exact_ := (explores.joined st c inside scanned.known inv).mp (by rw [some]; rfl)
      exact ⟨scanned.take exact_.2 (marks.mark st source c st' some),
        explores.discover st c st' inside scanned.known inv some⟩)
    candidates (M.enter st source) stack ⟨entered, explores.enter st inv⟩
  have all : ∀ c ∈ candidates, edge source c →
      seen (pop M candidates st source stack).1 c = true :=
    fun c inside joined => (scanned.scanned c inside joined).resolve_left List.not_mem_nil
  refine ⟨⟨⟨scanned.pending, scanned.sound, ?_⟩, kept⟩, all⟩
  intro v known unlisted c inside joined
  by_cases here : v = source
  · subst here
    exact all c inside joined
  · exact scanned.done v known here unlisted c inside joined

/-- A search with enough fuel marks what it can reach from its start, and nothing else. -/
theorem drain_frontier (marks : Marks M seen) (nodup : candidates.Nodup)
    (explores : ∀ source, Explores M seen edge candidates start source Inv) {fuel : Nat} {st : σ}
    {stack : List Nat}
    (enough : unseen seen candidates st + stack.length ≤ fuel)
    (frontier : Frontier seen edge candidates start st stack) (inv : Inv st) :
    Frontier seen edge candidates start (drain M candidates fuel st stack) [] ∧
      Inv (drain M candidates fuel st stack) :=
  drain_invariant marks nodup
    (fun st stack => Frontier seen edge candidates start st stack ∧ Inv st)
    (fun _ source _ h => (pop_frontier marks (explores source) h.1 h.2).1) fuel st stack enough
    ⟨frontier, inv⟩

/-! ### The stack -/

/-- The length that the stack reaches while a node is scanned. -/
def scanPeak (M : Machine σ) (source : Nat) : List Nat → σ → List Nat → Nat
  | [], _, stack => stack.length
  | c :: rest, st, stack =>
    match M.discover st source c with
    | none => scanPeak M source rest st stack
    | some st' => max (stack.length + 1) (scanPeak M source rest st' (c :: stack))

/-- The length that the stack reaches in a whole search. -/
def drainPeak (M : Machine σ) (candidates : List Nat) : Nat → σ → List Nat → Nat
  | 0, _, stack => stack.length
  | _ + 1, _, [] => 0
  | fuel + 1, st, source :: stack =>
    max (stack.length + 1) (max (scanPeak M source candidates (M.enter st source) stack)
      (drainPeak M candidates fuel (pop M candidates st source stack).1
        (pop M candidates st source stack).2))

lemma scanPeak_le (marks : Marks M seen) (nodup : candidates.Nodup) (source : Nat)
    (rest : List Nat) (inside : ∀ c ∈ rest, c ∈ candidates) (st : σ) (stack : List Nat) :
    scanPeak M source rest st stack ≤ unseen seen candidates st + stack.length := by
  induction rest generalizing st stack with
  | nil => exact Nat.le_add_left _ _
  | cons c rest ih =>
    have later : ∀ v ∈ rest, v ∈ candidates := fun v listed => inside v (List.mem_cons_of_mem c listed)
    cases found : M.discover st source c with
    | none => simpa only [scanPeak, found] using ih later st stack
    | some st' =>
      have bound := ih later st' (c :: stack)
      have drop := countP_mark nodup (inside c List.mem_cons_self)
        (marks.fresh st source c st' found) (marks.mark st source c st' found)
      simp only [scanPeak, found, List.length_cons, unseen] at bound ⊢
      omega

/-- The stack never holds more than the search started with and the nodes it may mark. -/
theorem drainPeak_le (marks : Marks M seen) (nodup : candidates.Nodup) (fuel : Nat) (st : σ)
    (stack : List Nat) :
    drainPeak M candidates fuel st stack ≤ unseen seen candidates st + stack.length := by
  induction fuel generalizing st stack with
  | zero => exact Nat.le_add_left _ _
  | succ fuel ih =>
    cases stack with
    | nil => exact Nat.zero_le _
    | cons source stack =>
      have balance := pop_balance marks nodup st source stack
      have later := ih (pop M candidates st source stack).1 (pop M candidates st source stack).2
      have here := scanPeak_le marks nodup source candidates (fun _ listed => listed)
        (M.enter st source) stack
      have same : unseen seen candidates (M.enter st source) = unseen seen candidates st := by
        simp only [unseen, marks.enter]
      simp only [drainPeak, List.length_cons]
      omega

end Worklist
