import GoodixSpi.Lib.Worklist
import Mathlib.Logic.Relation

/-! Filling from seeds. Each seed starts a search of its own over marks that the searches share; a
node is marked when it enters the queue, and the queue is an array that only grows. -/

namespace QueueFill

universe u

/-- Marks on the nodes of a list. -/
structure Marks (σ : Type u) (nodes : List ℕ) where
  marked : σ → ℕ → Bool
  mark : σ → ℕ → σ
  marked_mark : ∀ st, ∀ c ∈ nodes, ∀ v, marked (mark st c) v = (marked st v || v == c)

structure Search (σ : Type u) where
  marks : σ
  queue : List ℕ
  head : ℕ

variable {σ : Type u} {nodes : List ℕ} (M : Marks σ nodes) (neighbors : ℕ → List ℕ)
  (admits : ℕ → Bool)

def visit (s : Search σ) (c : ℕ) : Search σ :=
  if M.marked s.marks c || !admits c then s
  else { s with marks := M.mark s.marks c, queue := s.queue ++ [c] }

/-- The next node of the queue looks at its neighbours. -/
def step (s : Search σ) : Search σ :=
  match s.queue[s.head]? with
  | none => s
  | some v => (neighbors v).foldl (visit M admits) { s with head := s.head + 1 }

def run : ℕ → Search σ → Search σ
  | 0, s => s
  | rounds + 1, s => run rounds (step M neighbors admits s)

def search (rounds : ℕ) (st : σ) (seed : ℕ) : Search σ :=
  run M neighbors admits rounds ⟨st, [seed], 0⟩

/-- One search after the other. -/
def fill (rounds : ℕ) (order : List ℕ) (st : σ) : σ :=
  order.foldl (fun st seed => (search M neighbors admits rounds st seed).marks) st

/-- Only the nodes of a list are neighbours. -/
def Within (nodes : List ℕ) (neighbors : ℕ → List ℕ) : Prop := ∀ v, ∀ c ∈ neighbors v, c ∈ nodes

def Edge (a c : ℕ) : Prop := c ∈ neighbors a ∧ admits c = true

/-- A seed leads to the node. -/
def Reached (seed : ℕ → Prop) (v : ℕ) : Prop :=
  ∃ s, seed s ∧ Relation.ReflTransGen (Edge neighbors admits) s v

variable {M neighbors admits}

/-! ### One node and its neighbours -/

/-- What a node's neighbours have done to a search: the new marks are the new end of the queue. -/
structure Grown (M : Marks σ nodes) (admits : ℕ → Bool) (looked : List ℕ)
    (before after : Search σ) : Prop where
  head : after.head = before.head
  queue : ∃ fresh, after.queue = before.queue ++ fresh ∧
    ∀ v, M.marked after.marks v = true ↔ M.marked before.marks v = true ∨ v ∈ fresh
  sound : ∀ v, M.marked after.marks v = true →
    M.marked before.marks v = true ∨ v ∈ looked ∧ admits v = true
  complete : ∀ c ∈ looked, admits c = true → M.marked after.marks c = true
  balance : after.queue.length + nodes.countP (fun v => !M.marked after.marks v) =
    before.queue.length + nodes.countP (fun v => !M.marked before.marks v)

lemma grown_refl (s : Search σ) : Grown M admits [] s s where
  head := rfl
  queue := ⟨[], by simp⟩
  sound _ marked := Or.inl marked
  complete _ mem := nomatch mem
  balance := rfl

lemma Grown.visit {looked : List ℕ} {before after : Search σ} (nodup : nodes.Nodup)
    (grown : Grown M admits looked before after) {c : ℕ} (inside : c ∈ nodes) :
    Grown M admits (looked ++ [c]) before (visit M admits after c) := by
  obtain ⟨fresh, queue, marks⟩ := grown.queue
  unfold QueueFill.visit
  split
  · rename_i passed
    refine ⟨grown.head, grown.queue, fun v marked => ?_, fun d mem admitted => ?_, grown.balance⟩
    · exact (grown.sound v marked).imp_right fun found => ⟨List.mem_append_left _ found.1, found.2⟩
    · rcases List.mem_append.mp mem with earlier | last
      · exact grown.complete d earlier admitted
      · rw [List.mem_singleton.mp last] at admitted ⊢
        simpa [admitted] using passed
  · rename_i taken
    rw [Bool.or_eq_true, not_or, Bool.not_eq_true, Bool.not_eq_true, Bool.not_eq_false'] at taken
    obtain ⟨unmarked, admitted⟩ := taken
    have mark := M.marked_mark after.marks c inside
    refine ⟨grown.head, ⟨fresh ++ [c], by rw [queue, List.append_assoc], fun v => ?_⟩,
      fun v marked => ?_, fun d mem admittedToo => ?_, ?_⟩
    · rw [mark, Bool.or_eq_true, marks, beq_iff_eq, List.mem_append, List.mem_singleton, or_assoc]
    · rw [mark, Bool.or_eq_true, beq_iff_eq] at marked
      rcases marked with earlier | rfl
      · exact (grown.sound v earlier).imp_right fun found =>
          ⟨List.mem_append_left _ found.1, found.2⟩
      · exact Or.inr ⟨List.mem_append_right _ (List.mem_singleton_self v), admitted⟩
    · rw [mark, Bool.or_eq_true, beq_iff_eq]
      rcases List.mem_append.mp mem with earlier | last
      · exact Or.inl (grown.complete d earlier admittedToo)
      · exact Or.inr (List.mem_singleton.mp last)
    · have drop := Worklist.countP_mark nodup inside unmarked mark
      have balance := grown.balance
      simp only [List.length_append, List.length_singleton]
      omega

lemma grown_foldl (nodup : nodes.Nodup) {before : Search σ} (rest looked : List ℕ)
    {after : Search σ} (inside : ∀ c ∈ rest, c ∈ nodes)
    (grown : Grown M admits looked before after) :
    Grown M admits (looked ++ rest) before (rest.foldl (visit M admits) after) := by
  induction rest generalizing looked after with
  | nil => simpa using grown
  | cons c rest ih =>
    obtain ⟨here, later⟩ := List.forall_mem_cons.mp inside
    have next := ih (looked ++ [c]) later (grown.visit nodup here)
    rwa [List.append_assoc, List.singleton_append] at next

/-! ### One search -/

/-- Every marked node can be reached; its neighbours are marked unless its turn is still to come. -/
structure Filled (M : Marks σ nodes) (neighbors : ℕ → List ℕ) (admits : ℕ → Bool)
    (seed waiting : ℕ → Prop) (st : σ) : Prop where
  sound : ∀ v, M.marked st v = true → Reached neighbors admits seed v
  closed : ∀ v, M.marked st v = true → ¬waiting v → ∀ c ∈ neighbors v, admits c = true →
    M.marked st c = true

/-- In a search the turn of the rest of the queue is still to come. -/
structure Searching (M : Marks σ nodes) (neighbors : ℕ → List ℕ) (admits : ℕ → Bool)
    (seed waiting : ℕ → Prop) (s : Search σ) : Prop where
  queued : ∀ v ∈ s.queue, M.marked s.marks v = true
  filled : Filled M neighbors admits seed (fun v => waiting v ∨ v ∈ s.queue.drop s.head) s.marks

lemma Reached.tail {seed : ℕ → Prop} {v c : ℕ} (reached : Reached neighbors admits seed v)
    (edge : Edge neighbors admits v c) : Reached neighbors admits seed c := by
  obtain ⟨s, is, path⟩ := reached
  exact ⟨s, is, path.tail edge⟩

variable {seed waiting : ℕ → Prop} {s : Search σ}

lemma step_eq {v : ℕ} (next : s.queue[s.head]? = some v) :
    step M neighbors admits s =
      (neighbors v).foldl (visit M admits) { s with head := s.head + 1 } := by
  rw [step, next]

lemma step_done (done : s.queue.length ≤ s.head) : step M neighbors admits s = s := by
  rw [step, List.getElem?_eq_none done]

lemma step_grown (nodup : nodes.Nodup) (within : Within nodes neighbors) {v : ℕ}
    (next : s.queue[s.head]? = some v) :
    Grown M admits (neighbors v) { s with head := s.head + 1 } (step M neighbors admits s) := by
  rw [step_eq next]
  have start : Grown M admits [] { s with head := s.head + 1 } { s with head := s.head + 1 } :=
    grown_refl _
  exact grown_foldl nodup (neighbors v) [] (within v) start

/-- One round keeps the invariant. -/
lemma Searching.step (nodup : nodes.Nodup) (within : Within nodes neighbors)
    (searching : Searching M neighbors admits seed waiting s) :
    Searching M neighbors admits seed waiting (step M neighbors admits s) := by
  cases next : s.queue[s.head]? with
  | none =>
    rw [step_done (List.getElem?_eq_none_iff.mp next)]
    exact searching
  | some v =>
    have grown : Grown M admits (neighbors v) _ _ := step_grown nodup within next
    obtain ⟨fresh, queue, marks⟩ := grown.queue
    have head : (QueueFill.step M neighbors admits s).head = s.head + 1 := grown.head
    obtain ⟨inside, at_⟩ := List.getElem?_eq_some_iff.mp next
    have rest : s.queue.drop s.head = v :: s.queue.drop (s.head + 1) := by
      rw [List.drop_eq_getElem_cons inside, at_]
    have now : M.marked s.marks v = true := searching.queued v (List.mem_of_getElem? next)
    have coming : (QueueFill.step M neighbors admits s).queue.drop (s.head + 1) =
        s.queue.drop (s.head + 1) ++ fresh := by
      rw [queue, List.drop_append_of_le_length inside]
    refine ⟨fun u mem => ?_, fun u marked => ?_, fun u marked turn c near admitted => ?_⟩
    · rw [queue] at mem
      rw [marks]
      exact (List.mem_append.mp mem).imp_left (searching.queued u)
    · rcases grown.sound u marked with earlier | ⟨near, admitted⟩
      · exact searching.filled.sound u earlier
      · exact (searching.filled.sound v now).tail ⟨near, admitted⟩
    · rw [head, coming, List.mem_append, not_or, not_or] at turn
      obtain ⟨notWaiting, notQueued, notFresh⟩ := turn
      by_cases here : u = v
      · subst here
        exact grown.complete c near admitted
      · have earlier := ((marks u).mp marked).resolve_right notFresh
        rw [marks]
        refine Or.inl (searching.filled.closed u earlier ?_ c near admitted)
        rw [rest, List.mem_cons]
        exact fun turn => turn.elim notWaiting fun later => later.elim here notQueued

lemma Searching.run (nodup : nodes.Nodup) (within : Within nodes neighbors) (rounds : ℕ)
    (searching : Searching M neighbors admits seed waiting s) :
    Searching M neighbors admits seed waiting (run M neighbors admits rounds s) := by
  induction rounds generalizing s with
  | zero => exact searching
  | succ rounds ih => exact ih (searching.step nodup within)

/-- What marking an unmarked node keeps, a search keeps. -/
lemma run_invariant {P : σ → Prop}
    (keeps : ∀ st c, M.marked st c = false → P st → P (M.mark st c)) (rounds : ℕ) {s : Search σ}
    (holds : P s.marks) : P (run M neighbors admits rounds s).marks := by
  have visits (s : Search σ) (holds : P s.marks) (c : ℕ) : P (visit M admits s c).marks := by
    unfold visit
    split
    · exact holds
    · rename_i taken
      rw [Bool.or_eq_true, not_or, Bool.not_eq_true] at taken
      exact keeps _ _ taken.1 holds
  have folds (looked : List ℕ) (s : Search σ) (holds : P s.marks) :
      P (looked.foldl (visit M admits) s).marks := by
    induction looked generalizing s with
    | nil => exact holds
    | cons c rest ih => exact ih _ (visits s holds c)
  induction rounds generalizing s with
  | zero => exact holds
  | succ rounds ih =>
    refine ih ?_
    unfold step
    split
    · exact holds
    · exact folds _ _ holds

/-! ### The length of the queue -/

/-- How many nodes are not marked. -/
def unmarked (M : Marks σ nodes) (st : σ) : ℕ := nodes.countP fun v => !M.marked st v

lemma step_balance (nodup : nodes.Nodup) (within : Within nodes neighbors) (s : Search σ) :
    (step M neighbors admits s).queue.length + unmarked M (step M neighbors admits s).marks =
      s.queue.length + unmarked M s.marks := by
  cases next : s.queue[s.head]? with
  | none => rw [step_done (List.getElem?_eq_none_iff.mp next)]
  | some v => exact (step_grown nodup within next).balance

lemma run_balance (nodup : nodes.Nodup) (within : Within nodes neighbors) (rounds : ℕ)
    (s : Search σ) :
    (run M neighbors admits rounds s).queue.length +
        unmarked M (run M neighbors admits rounds s).marks =
      s.queue.length + unmarked M s.marks := by
  induction rounds generalizing s with
  | zero => rfl
  | succ rounds ih => rw [run, ih, step_balance nodup within]

/-- The search ends, or it looks at one more node of its queue in every round. -/
lemma run_head (nodup : nodes.Nodup) (within : Within nodes neighbors) (rounds : ℕ)
    (s : Search σ) :
    (run M neighbors admits rounds s).queue.length ≤ (run M neighbors admits rounds s).head ∨
      (run M neighbors admits rounds s).head = s.head + rounds := by
  induction rounds generalizing s with
  | zero => exact Or.inr rfl
  | succ rounds ih =>
    rw [run]
    cases next : s.queue[s.head]? with
    | none =>
      have done := List.getElem?_eq_none_iff.mp next
      rw [step_done done]
      refine Or.inl ?_
      clear ih
      induction rounds with
      | zero => exact done
      | succ rounds ih => rwa [run, step_done done]
    | some v =>
      have head : (step M neighbors admits s).head = s.head + 1 :=
        (step_grown nodup within next).head
      refine (ih (step M neighbors admits s)).imp_right fun looked => ?_
      omega

lemma unmarked_lt {st : σ} {v : ℕ} (inside : v ∈ nodes) (marked : M.marked st v = true) :
    unmarked M st < nodes.length := by
  refine Nat.lt_of_le_of_ne List.countP_le_length fun all => ?_
  have none := List.countP_eq_length.mp all v inside
  rw [marked] at none
  cases none

/-- The queue of a search from a marked node never holds more than all nodes. -/
theorem search_queue_le (nodup : nodes.Nodup) (within : Within nodes neighbors) (rounds : ℕ)
    {st : σ} {seed : ℕ} (inside : seed ∈ nodes) (marked : M.marked st seed = true) :
    (search M neighbors admits rounds st seed).queue.length ≤ nodes.length := by
  have few := unmarked_lt inside marked
  have balance : (search M neighbors admits rounds st seed).queue.length + unmarked M _ =
      [seed].length + unmarked M st := run_balance nodup within rounds ⟨st, [seed], 0⟩
  rw [List.length_singleton] at balance
  omega

/-- As many rounds as there are nodes are enough. -/
lemma search_ends (nodup : nodes.Nodup) (within : Within nodes neighbors) {st : σ} {seed : ℕ}
    (inside : seed ∈ nodes) (marked : M.marked st seed = true) :
    (search M neighbors admits nodes.length st seed).queue.drop
      (search M neighbors admits nodes.length st seed).head = [] := by
  have short : (search M neighbors admits nodes.length st seed).queue.length ≤ nodes.length :=
    search_queue_le nodup within nodes.length inside marked
  have looked : _ ∨ (search M neighbors admits nodes.length st seed).head = 0 + nodes.length :=
    run_head nodup within nodes.length ⟨st, [seed], 0⟩
  rw [List.drop_eq_nil_iff]
  rcases looked with done | all
  · exact done
  · omega

/-! ### All searches -/

lemma fill_cons (rounds : ℕ) (seed : ℕ) (order : List ℕ) (st : σ) :
    fill M neighbors admits rounds (seed :: order) st =
      fill M neighbors admits rounds order (search M neighbors admits rounds st seed).marks := rfl

lemma step_marked (nodup : nodes.Nodup) (within : Within nodes neighbors) {s : Search σ} {v : ℕ}
    (marked : M.marked s.marks v = true) :
    M.marked (step M neighbors admits s).marks v = true := by
  cases next : s.queue[s.head]? with
  | none => rwa [step_done (List.getElem?_eq_none_iff.mp next)]
  | some u =>
    obtain ⟨fresh, -, marks⟩ := (step_grown (M := M) nodup within next).queue
    exact (marks v).mpr (Or.inl marked)

lemma run_marked (nodup : nodes.Nodup) (within : Within nodes neighbors) (rounds : ℕ)
    {s : Search σ} {v : ℕ} (marked : M.marked s.marks v = true) :
    M.marked (run M neighbors admits rounds s).marks v = true := by
  induction rounds generalizing s with
  | zero => exact marked
  | succ rounds ih => exact ih (step_marked nodup within marked)

lemma Filled.search (nodup : nodes.Nodup) (within : Within nodes neighbors)
    {seed waiting : ℕ → Prop} {st : σ} (filled : Filled M neighbors admits seed waiting st)
    {start : ℕ} (inside : start ∈ nodes) (marked : M.marked st start = true) :
    Filled M neighbors admits seed (fun v => waiting v ∧ v ≠ start)
      (search M neighbors admits nodes.length st start).marks := by
  have searching : Searching M neighbors admits seed (fun v => waiting v ∧ v ≠ start)
      ⟨st, [start], 0⟩ := by
    refine ⟨fun v mem => ?_, filled.sound, fun v known turn => ?_⟩
    · rwa [List.mem_singleton.mp mem]
    · rw [List.drop_zero, List.mem_singleton, not_or] at turn
      exact filled.closed v known fun waits => turn.1 ⟨waits, turn.2⟩
  have ended : (QueueFill.search M neighbors admits nodes.length st start).queue.drop _ = [] :=
    search_ends nodup within inside marked
  obtain ⟨-, sound, closed⟩ := searching.run nodup within nodes.length
  refine ⟨sound, fun v known turn => closed v known fun later => later.elim turn fun queued => ?_⟩
  rw [show run M neighbors admits nodes.length ⟨st, [start], 0⟩ =
    QueueFill.search M neighbors admits nodes.length st start from rfl, ended] at queued
  cases queued

lemma Filled.fill (nodup : nodes.Nodup) (within : Within nodes neighbors) {seed : ℕ → Prop}
    (order : List ℕ) {waiting : ℕ → Prop} {st : σ}
    (filled : Filled M neighbors admits seed waiting st)
    (seeds : ∀ v ∈ order, v ∈ nodes ∧ M.marked st v = true) :
    Filled M neighbors admits seed (fun v => waiting v ∧ v ∉ order)
        (fill M neighbors admits nodes.length order st) ∧
      ∀ v, M.marked st v = true →
        M.marked (fill M neighbors admits nodes.length order st) v = true := by
  induction order generalizing waiting st with
  | nil => exact ⟨⟨filled.sound, fun v known turn => filled.closed v known fun waits =>
      turn ⟨waits, List.not_mem_nil⟩⟩, fun _ marked => marked⟩
  | cons start rest ih =>
    obtain ⟨⟨inside, marked⟩, later⟩ := List.forall_mem_cons.mp seeds
    have keeps {v : ℕ} (known : M.marked st v = true) :
        M.marked (QueueFill.search M neighbors admits nodes.length st start).marks v = true :=
      run_marked nodup within nodes.length known
    obtain ⟨⟨sound, closed⟩, grows⟩ := ih (filled.search nodup within inside marked)
      fun v mem => ⟨(later v mem).1, keeps (later v mem).2⟩
    refine ⟨⟨sound, fun v known turn => closed v known fun waits => turn ⟨waits.1.1, ?_⟩⟩,
      fun v known => grows v (keeps known)⟩
    rw [List.mem_cons, not_or]
    exact ⟨waits.1.2, waits.2⟩

/-- After all searches the marked nodes are those that a seed leads to, in whatever order the seeds
were taken. -/
theorem fill_marked_iff (nodup : nodes.Nodup) (within : Within nodes neighbors)
    {seed : ℕ → Prop} {order : List ℕ} {st : σ} (start : ∀ v, M.marked st v = true ↔ seed v)
    (seeds : ∀ v ∈ order, v ∈ nodes ∧ seed v)
    (all : ∀ v, seed v → v ∉ order → neighbors v = []) (v : ℕ) :
    M.marked (fill M neighbors admits nodes.length order st) v = true ↔
      Reached neighbors admits seed v := by
  have initial : Filled M neighbors admits seed seed st :=
    ⟨fun v known => ⟨v, (start v).mp known, .refl⟩,
      fun v known waits => absurd ((start v).mp known) waits⟩
  obtain ⟨⟨sound, closed⟩, grows⟩ := initial.fill nodup within order fun v mem =>
    ⟨(seeds v mem).1, (start v).mpr (seeds v mem).2⟩
  constructor
  · exact sound v
  · rintro ⟨s, is, path⟩
    induction path with
    | refl => exact grows s ((start s).mpr is)
    | @tail b c _ edge ih =>
      refine closed b ih (fun waits => ?_) c edge.1 edge.2
      have near := edge.1
      rw [all b waits.1 waits.2] at near
      cases near

end QueueFill
