import GoodixSpi.Lib.Worklist
import Mathlib.Data.Finset.Card
import Mathlib.Data.List.Nodup

/-! Depth-first forests over the nodes below a bound. Roots are tried in ascending
order, neighbours are discovered from the highest index down and consumed from a
stack. The forest records for each node its root, its parent and, for each root,
how many nodes were reached from it.

The graph may change between two searches: `build_stable` says that a search cannot
tell a graph from any subgraph that keeps the forest it found. -/

namespace SearchForest

open Worklist

structure State where
  component : Nat → Option Nat
  parent : Nat → Option Nat
  size : Nat → Nat

def State.empty : State := ⟨fun _ => none, fun _ => none, fun _ => 0⟩

def State.seen (st : State) (v : Nat) : Bool := (st.component v).isSome

def State.openRoot (st : State) (root : Nat) : State :=
  { st with component := Function.update st.component root (some root)
            size := Function.update st.size root 1 }

def State.adopt (st : State) (root current candidate : Nat) : State where
  component := Function.update st.component candidate (some root)
  parent := Function.update st.parent candidate (some current)
  size := Function.update st.size root (st.size root + 1)

def machine (edge : Nat → Nat → Bool) (root : Nat) : Machine State where
  enter st _ := st
  discover st current candidate :=
    if candidate = current ∨ st.seen candidate = true ∨ edge current candidate = false then none
    else some (st.adopt root current candidate)

/-- `for (candidate = count; candidate-- > 0;)`. -/
def descending (count : Nat) : List Nat := (List.range count).reverse

def searchFrom (edge : Nat → Nat → Bool) (count : Nat) (st : State) (root : Nat) : State :=
  if st.seen root then st
  else drain (machine edge root) (descending count) count (st.openRoot root) [root]

def build (edge : Nat → Nat → Bool) (count : Nat) : State :=
  (List.range count).foldl (searchFrom edge count) .empty

variable {edge : Nat → Nat → Bool} {count root : Nat}

lemma discover_some_iff {st st' : State} {current candidate : Nat} :
    (machine edge root).discover st current candidate = some st' ↔
      candidate ≠ current ∧ st.seen candidate = false ∧ edge current candidate = true ∧
        st' = st.adopt root current candidate := by
  by_cases h : candidate = current ∨ st.seen candidate = true ∨ edge current candidate = false
  · simp only [machine, if_pos h, reduceCtorEq, false_iff]
    rintro ⟨h₁, h₂, h₃, -⟩
    simp [h₁, h₂, h₃] at h
  · simp only [machine, if_neg h, Option.some.injEq]
    simp only [not_or, Bool.not_eq_true, Bool.not_eq_false] at h
    exact ⟨fun e => ⟨h.1, h.2.1, h.2.2, e.symm⟩, fun e => e.2.2.2.symm⟩

lemma seen_adopt (st : State) (root current candidate v : Nat) :
    (st.adopt root current candidate).seen v = (st.seen v || v == candidate) := by
  by_cases h : v = candidate
  · simp [State.seen, State.adopt, h]
  · simp [State.seen, State.adopt, h]

lemma seen_openRoot (st : State) (root v : Nat) :
    (st.openRoot root).seen v = (st.seen v || v == root) := by
  by_cases h : v = root
  · simp [State.seen, State.openRoot, h]
  · simp [State.seen, State.openRoot, h]

lemma machine_marks (edge : Nat → Nat → Bool) (root : Nat) :
    Marks (machine edge root) State.seen where
  enter _ _ _ := rfl
  fresh st s c st' h := (discover_some_iff.mp h).2.1
  mark st s c st' h v := by
    obtain ⟨-, -, -, rfl⟩ := discover_some_iff.mp h
    exact seen_adopt st root s c v

lemma mem_descending {v count : Nat} : v ∈ descending count ↔ v < count := by
  simp [descending]

lemma nodup_descending (count : Nat) : (descending count).Nodup :=
  List.nodup_reverse.mpr List.nodup_range

/-- The fuel of `searchFrom` lets its stack run empty: the root is already marked. -/
lemma searchFrom_enough (st : State) (hroot : root < count) (fresh : st.seen root = false) :
    unseen State.seen (descending count) (st.openRoot root) + [root].length ≤ count := by
  have drop := countP_mark (nodup_descending count) (mem_descending.mpr hroot) fresh
    (seen_openRoot st root)
  have all : (descending count).countP (fun v => !st.seen v) ≤ (descending count).length :=
    List.countP_le_length
  have len : (descending count).length = count := by simp [descending]
  simp only [unseen, List.length_singleton]
  omega

/-! ### Monotone facts: what is recorded stays recorded -/

/-- Parents recorded in `st` are still there in `st'`. -/
def Keeps (st st' : State) : Prop := ∀ c p, st.parent c = some p → st'.parent c = some p

/-- Only marked nodes have a parent. -/
def Marked (st : State) : Prop := ∀ c p, st.parent c = some p → st.seen c = true

lemma adopt_keeps {st : State} (marked : Marked st) {current candidate : Nat}
    (fresh : st.seen candidate = false) : Keeps st (st.adopt root current candidate) := by
  intro c p h
  have hne : c ≠ candidate := by
    rintro rfl
    exact absurd (marked c p h) (by simp [fresh])
  simpa [State.adopt, hne] using h

lemma adopt_marked {st : State} (marked : Marked st) (current candidate : Nat) :
    Marked (st.adopt root current candidate) := by
  intro c p h
  rw [seen_adopt]
  by_cases hc : c = candidate
  · simp [hc]
  · have old := marked c p (by simpa [State.adopt, hc] using h)
    simp [old]

lemma scan_keeps (current : Nat) (candidates : List Nat) (st : State) (stack : List Nat)
    (marked : Marked st) :
    Keeps st (scan (machine edge root) current candidates st stack).1 ∧
      Marked (scan (machine edge root) current candidates st stack).1 := by
  refine scan_induct (fun _ st' _ => Keeps st st' ∧ Marked st') (fun _ _ _ _ h _ => h) ?_
    candidates st stack ⟨fun _ _ h => h, marked⟩
  rintro c - st₁ - st₂ ⟨keeps, marked₁⟩ hd
  obtain ⟨-, fresh, -, rfl⟩ := discover_some_iff.mp hd
  exact ⟨fun v p h => adopt_keeps marked₁ fresh v p (keeps v p h),
    adopt_marked marked₁ current c⟩

lemma drain_keeps (candidates : List Nat) (fuel : Nat) (st : State) (stack : List Nat)
    (marked : Marked st) :
    Keeps st (drain (machine edge root) candidates fuel st stack) ∧
      Marked (drain (machine edge root) candidates fuel st stack) := by
  refine drain_preserves (fun st' => Keeps st st' ∧ Marked st') candidates (fun _ _ h => h) ?_
    fuel st stack ⟨fun _ _ h => h, marked⟩
  rintro st₁ s c st₂ - ⟨keeps, marked₁⟩ hd
  obtain ⟨-, fresh, -, rfl⟩ := discover_some_iff.mp hd
  exact ⟨fun v p h => adopt_keeps marked₁ fresh v p (keeps v p h), adopt_marked marked₁ s c⟩

lemma drain_seen (candidates : List Nat) (fuel : Nat) (st : State) (stack : List Nat) (v : Nat)
    (h : st.seen v = true) :
    (drain (machine edge root) candidates fuel st stack).seen v = true := by
  refine drain_preserves (M := machine edge root) (fun st' => st'.seen v = true) candidates
    (fun _ _ h => h) ?_ fuel st stack h
  rintro st₁ s c st₂ - seen hd
  obtain ⟨-, -, -, rfl⟩ := discover_some_iff.mp hd
  rw [seen_adopt, seen, Bool.true_or]

lemma searchFrom_seen (count : Nat) (st : State) (root v : Nat) (h : st.seen v = true) :
    (searchFrom edge count st root).seen v = true := by
  unfold searchFrom
  split
  · exact h
  · exact drain_seen (descending count) count _ [root] v (by rw [seen_openRoot, h, Bool.true_or])

lemma openRoot_marked {st : State} (marked : Marked st) (root : Nat) :
    Marked (st.openRoot root) := by
  intro c p h
  rw [seen_openRoot, marked c p h, Bool.true_or]

lemma searchFrom_keeps (count : Nat) (st : State) (root : Nat) (marked : Marked st) :
    Keeps st (searchFrom edge count st root) ∧ Marked (searchFrom edge count st root) := by
  unfold searchFrom
  split
  · exact ⟨fun _ _ h => h, marked⟩
  · exact drain_keeps (descending count) count (st.openRoot root) [root]
      (openRoot_marked marked root)

lemma foldl_keeps (count : Nat) (roots : List Nat) (st : State) (marked : Marked st) :
    Keeps st (roots.foldl (searchFrom edge count) st) ∧
      Marked (roots.foldl (searchFrom edge count) st) := by
  induction roots generalizing st with
  | nil => exact ⟨fun _ _ h => h, marked⟩
  | cons r rest ih =>
    obtain ⟨keeps, marked'⟩ := @searchFrom_keeps edge count st r marked
    obtain ⟨keeps', marked''⟩ := ih _ marked'
    exact ⟨fun c p h => keeps' c p (keeps c p h), marked''⟩

/-! ### Stability -/

section Stability

variable {sub : Nat → Nat → Bool} (subgraph : ∀ a b, sub a b = true → edge a b = true)
include subgraph

lemma scan_stable (current : Nat) (candidates : List Nat) (st : State) (stack : List Nat)
    (marked : Marked st)
    (kept : ∀ c p, (scan (machine edge root) current candidates st stack).1.parent c = some p →
      sub p c = true) :
    scan (machine sub root) current candidates st stack =
      scan (machine edge root) current candidates st stack := by
  induction candidates generalizing st stack with
  | nil => rfl
  | cons c rest ih =>
    cases hd : (machine edge root).discover st current c with
    | none =>
      have hsub : (machine sub root).discover st current c = none := by
        by_contra hne
        obtain ⟨st', h⟩ := Option.ne_none_iff_exists'.mp hne
        obtain ⟨h₁, h₂, h₃, -⟩ := discover_some_iff.mp h
        have h' : (machine edge root).discover st current c = some (st.adopt root current c) :=
          discover_some_iff.mpr ⟨h₁, h₂, subgraph _ _ h₃, rfl⟩
        rw [hd] at h'
        cases h'
      simp only [scan, hd] at kept
      simp only [scan, hd, hsub]
      exact ih st stack marked kept
    | some st' =>
      obtain ⟨h₁, fresh, -, rfl⟩ := discover_some_iff.mp hd
      have marked' := @adopt_marked root st marked current c
      simp only [scan, hd] at kept
      -- The parent just recorded is still there at the end, so its edge was kept.
      have recorded : (st.adopt root current c).parent c = some current := by
        simp [State.adopt]
      have hedge : sub current c = true :=
        kept c current ((scan_keeps current rest _ _ marked').1 c current recorded)
      have hsub : (machine sub root).discover st current c = some (st.adopt root current c) :=
        discover_some_iff.mpr ⟨h₁, fresh, hedge, rfl⟩
      simp only [scan, hd, hsub]
      exact ih _ _ marked' kept

lemma drain_stable (candidates : List Nat) (fuel : Nat) (st : State) (stack : List Nat)
    (marked : Marked st)
    (kept : ∀ c p, (drain (machine edge root) candidates fuel st stack).parent c = some p →
      sub p c = true) :
    drain (machine sub root) candidates fuel st stack =
      drain (machine edge root) candidates fuel st stack := by
  induction fuel generalizing st stack with
  | zero => rfl
  | succ fuel ih =>
    cases stack with
    | nil => rfl
    | cons source stack =>
      obtain ⟨-, marked'⟩ := @scan_keeps edge root source candidates st
        stack marked
      have same : pop (machine sub root) candidates st source stack =
          pop (machine edge root) candidates st source stack :=
        scan_stable subgraph source candidates st stack marked fun c p h =>
          kept c p ((drain_keeps candidates fuel _ _ marked').1 c p h)
      simp only [drain, same]
      exact ih _ _ marked' kept

lemma foldl_stable (count : Nat) (roots : List Nat) (st : State) (marked : Marked st)
    (kept : ∀ c p, (roots.foldl (searchFrom edge count) st).parent c = some p →
      sub p c = true) :
    roots.foldl (searchFrom sub count) st = roots.foldl (searchFrom edge count) st := by
  induction roots generalizing st with
  | nil => rfl
  | cons r rest ih =>
    obtain ⟨-, marked'⟩ := @searchFrom_keeps edge count st r marked
    have same : searchFrom sub count st r = searchFrom edge count st r := by
      have early : ∀ c p, (searchFrom edge count st r).parent c = some p → sub p c = true :=
        fun c p h => kept c p ((foldl_keeps count rest _ marked').1 c p h)
      unfold searchFrom at early ⊢
      by_cases h : st.seen r = true
      · simp only [if_pos h]
      · simp only [if_neg h] at early ⊢
        exact drain_stable subgraph (descending count) count _ _ (openRoot_marked marked r) early
    simp only [List.foldl_cons, same]
    exact ih _ marked' kept

/-- A search of a subgraph that keeps every forest edge goes through the same states. -/
theorem build_stable (count : Nat)
    (kept : ∀ c p, (build edge count).parent c = some p → sub p c = true) :
    build sub count = build edge count :=
  foldl_stable subgraph count (List.range count) .empty (fun _ _ h => by cases h) kept

end Stability

/-! ### Components

A state between two searches is closed: whatever a marked node is joined to is marked
and has the same root. While a search runs, only the stack and the node being scanned
may still have unmarked neighbours. -/

/-- Whatever a marked node is joined to is marked with the same root. -/
def Closed (edge : Nat → Nat → Bool) (count : Nat) (st : State) : Prop :=
  ∀ v w, v < count → w < count → st.seen v = true → edge v w = true →
    st.seen w = true ∧ st.component w = st.component v

structure Scanning (edge : Nat → Nat → Bool) (count root : Nat) (current : Option Nat)
    (rest : List Nat) (st : State) (stack : List Nat) : Prop where
  pending : ∀ v, v ∈ stack ∨ some v = current → v < count ∧ st.component v = some root
  done : ∀ v w, v < count → w < count → st.seen v = true → v ∉ stack → some v ≠ current →
    edge v w = true → st.seen w = true
  scanned : ∀ v w, some v = current → w < count → edge v w = true →
    w ∈ rest ∨ st.seen w = true
  agree : ∀ v w, v < count → w < count → st.seen v = true → st.seen w = true →
    edge v w = true → st.component v = st.component w

lemma seen_of_component {st : State} {v r : Nat} (h : st.component v = some r) :
    st.seen v = true := by
  simp [State.seen, h]

section Components

variable (symmetric : ∀ a b, a < count → b < count → edge a b = edge b a)
include symmetric

lemma scanning_adopt {current c : Nat} {rest : List Nat} {st : State} {stack : List Nat}
    (inv : Scanning edge count root (some current) (c :: rest) st stack) (hc : c < count)
    (fresh : st.seen c = false) (hedge : edge current c = true) :
    Scanning edge count root (some current) rest (st.adopt root current c) (c :: stack) := by
  have component_ne : ∀ v, v ≠ c → (st.adopt root current c).component v = st.component v :=
    fun v hv => by simp [State.adopt, hv]
  have component_eq : (st.adopt root current c).component c = some root := by
    simp [State.adopt]
  have hcur : st.seen current = true := seen_of_component (inv.pending current (.inr rfl)).2
  -- A marked neighbour of a fresh node is still pending, hence rooted here.
  have joined : ∀ w, w < count → st.seen w = true → edge c w = true →
      st.component w = some root := by
    intro w hw seenw hcw
    by_cases hpending : w ∈ stack ∨ some w = some current
    · exact (inv.pending w hpending).2
    · obtain ⟨hstack, hcurrent⟩ := not_or.mp hpending
      have hwc : edge w c = true := (symmetric c w hc hw) ▸ hcw
      have bad := inv.done w c hw hc seenw hstack hcurrent hwc
      rw [fresh] at bad
      cases bad
  refine ⟨?_, ?_, ?_, ?_⟩
  · intro v hv
    by_cases hvc : v = c
    · exact ⟨hvc ▸ hc, hvc ▸ component_eq⟩
    · have old : v ∈ stack ∨ some v = some current := by
        rcases hv with hv | hv
        · exact .inl ((List.mem_cons.mp hv).resolve_left hvc)
        · exact .inr hv
      rw [component_ne v hvc]
      exact inv.pending v old
  · intro v w hv hw seenv hstack hcurrent hvw
    obtain ⟨hvc, hstack⟩ := not_or.mp (fun h => hstack (List.mem_cons.mpr h))
    have seenv' : st.seen v = true := by simpa [seen_adopt, hvc] using seenv
    simp [seen_adopt, inv.done v w hv hw seenv' hstack hcurrent hvw]
  · intro v w hv hw hvw
    rcases inv.scanned v w hv hw hvw with h | h
    · rcases List.mem_cons.mp h with rfl | h
      · simp [seen_adopt]
      · exact .inl h
    · simp [seen_adopt, h]
  · intro v w hv hw seenv seenw hvw
    rw [seen_adopt] at seenv seenw
    by_cases hvc : v = c
    · by_cases hwc : w = c
      · rw [hvc, hwc]
      · have seenw' : st.seen w = true := by simpa [hwc] using seenw
        rw [component_ne w hwc, hvc, component_eq, joined w hw seenw' (hvc ▸ hvw)]
    · have seenv' : st.seen v = true := by simpa [hvc] using seenv
      by_cases hwc : w = c
      · have hcv : edge c v = true := by
          rw [symmetric c v hc hv, ← hwc]
          exact hvw
        rw [component_ne v hvc, hwc, component_eq, joined v hv seenv' hcv]
      · have seenw' : st.seen w = true := by simpa [hwc] using seenw
        rw [component_ne v hvc, component_ne w hwc]
        exact inv.agree v w hv hw seenv' seenw' hvw

lemma scanning_pop {source : Nat} {st : State} {stack : List Nat}
    (inv : Scanning edge count root none [] st (source :: stack)) :
    Scanning edge count root none []
      (pop (machine edge root) (descending count) st source stack).1
      (pop (machine edge root) (descending count) st source stack).2 := by
  have start : Scanning edge count root (some source) (descending count) st stack := by
    refine ⟨?_, ?_, ?_, inv.agree⟩
    · rintro v (hv | hv)
      · exact inv.pending v (.inl (List.mem_cons_of_mem source hv))
      · rw [Option.some.injEq] at hv
        exact inv.pending v (.inl (hv ▸ List.mem_cons_self))
    · intro v w hv hw seenv hstack hcurrent hvw
      refine inv.done v w hv hw seenv ?_ (by simp) hvw
      intro h
      rcases List.mem_cons.mp h with h | h
      · exact hcurrent (by rw [h])
      · exact hstack h
    · intro v w _ hw _
      exact .inl (mem_descending.mpr hw)
  have scanned := @scan_induct _ (machine edge root) source
    (fun rest st stack => (∀ v ∈ rest, v < count) ∧
      Scanning edge count root (some source) rest st stack)
    (fun c rest st stack h hd => ⟨fun v hv => h.1 v (List.mem_cons_of_mem c hv), by
      refine ⟨h.2.pending, h.2.done, ?_, h.2.agree⟩
      intro v w hv hw hvw
      rcases h.2.scanned v w hv hw hvw with hmem | hseen
      · rcases List.mem_cons.mp hmem with rfl | hmem
        · -- The candidate was skipped although it is joined: it is marked already.
          right
          by_contra hfresh
          rw [Option.some.injEq] at hv
          subst hv
          have hne : w ≠ v := by
            rintro rfl
            exact hfresh (seen_of_component (h.2.pending w (.inr rfl)).2)
          have found : (machine edge root).discover st v w = some (st.adopt root v w) :=
            discover_some_iff.mpr ⟨hne, by simpa using hfresh, hvw, rfl⟩
          rw [found] at hd
          cases hd
        · exact .inl hmem
      · exact .inr hseen⟩)
    (fun c rest st stack st' h hd => ⟨fun v hv => h.1 v (List.mem_cons_of_mem c hv), by
      obtain ⟨-, fresh, hedge, rfl⟩ := discover_some_iff.mp hd
      exact scanning_adopt symmetric h.2 (h.1 c List.mem_cons_self) fresh hedge⟩)
    (descending count) st stack ⟨fun v hv => mem_descending.mp hv, start⟩
  obtain ⟨-, done⟩ := scanned
  refine ⟨?_, ?_, by simp, done.agree⟩
  · rintro v (hv | hv)
    · exact done.pending v (.inl hv)
    · cases hv
  · intro v w hv hw seenv hstack _ hvw
    by_cases hcur : some v = some source
    · rcases done.scanned v w hcur hw hvw with h | h
      · cases h
      · exact h
    · exact done.done v w hv hw seenv hstack hcur hvw

lemma searchFrom_closed {st : State} (hroot : root < count) (closed : Closed edge count st) :
    Closed edge count (searchFrom edge count st root) ∧
      (searchFrom edge count st root).seen root = true := by
  unfold searchFrom
  by_cases hseen : st.seen root = true
  · rw [if_pos hseen]
    exact ⟨closed, hseen⟩
  rw [if_neg hseen]
  have fresh : st.seen root = false := by simpa using hseen
  have old : ∀ v, v ≠ root → (st.openRoot root).component v = st.component v :=
    fun v hv => by simp [State.openRoot, hv]
  have apart : ∀ w, w < count → st.seen w = true → edge root w = true → False := by
    intro w hw seenw hrw
    have back := (closed w root hw hroot seenw (symmetric root w hroot hw ▸ hrw)).1
    rw [fresh] at back
    cases back
  have start : Scanning edge count root none [] (st.openRoot root) [root] := by
    refine ⟨?_, ?_, by simp, ?_⟩
    · rintro v (hv | hv)
      · rw [List.mem_singleton.mp hv]
        exact ⟨hroot, by simp [State.openRoot]⟩
      · cases hv
    · intro v w hv hw seenv hstack _ hvw
      have hne : v ≠ root := fun h => hstack (by simp [h])
      have seenv' : st.seen v = true := by simpa [seen_openRoot, hne] using seenv
      simp [seen_openRoot, (closed v w hv hw seenv' hvw).1]
    · intro v w hv hw seenv seenw hvw
      rw [seen_openRoot] at seenv seenw
      by_cases hvr : v = root
      · by_cases hwr : w = root
        · rw [hvr, hwr]
        · exact (apart w hw (by simpa [hwr] using seenw) (hvr ▸ hvw)).elim
      · by_cases hwr : w = root
        · have hrv : edge root v = true := by
            rw [symmetric root v hroot hv, ← hwr]
            exact hvw
          exact (apart v hv (by simpa [hvr] using seenv) hrv).elim
        · rw [old v hvr, old w hwr]
          exact (closed v w hv hw (by simpa [hvr] using seenv) hvw).2.symm
  have final := drain_invariant (machine_marks edge root) (nodup_descending count)
    (fun st stack => Scanning edge count root none [] st stack)
    (fun _ _ _ h => scanning_pop symmetric h)
    count _ [root] (searchFrom_enough st hroot fresh) start
  refine ⟨?_, drain_seen (descending count) count _ [root] root (by simp [seen_openRoot])⟩
  intro v w hv hw seenv hvw
  have seenw := final.done v w hv hw seenv (by simp) (by simp) hvw
  exact ⟨seenw, (final.agree v w hv hw seenv seenw hvw).symm⟩

theorem foldl_closed (roots : List Nat) (inside : ∀ r ∈ roots, r < count) {st : State}
    (closed : Closed edge count st) :
    Closed edge count (roots.foldl (searchFrom edge count) st) ∧
      ∀ v, st.seen v = true ∨ v ∈ roots →
        (roots.foldl (searchFrom edge count) st).seen v = true := by
  induction roots generalizing st with
  | nil => exact ⟨closed, fun v hv => hv.resolve_right (by simp)⟩
  | cons r rest ih =>
    obtain ⟨closed', seenr⟩ := searchFrom_closed symmetric (inside r List.mem_cons_self) closed
    obtain ⟨final, seen⟩ := ih (fun v hv => inside v (List.mem_cons_of_mem r hv)) closed'
    refine ⟨final, fun v hv => seen v ?_⟩
    rcases hv with hv | hv
    · exact .inl (searchFrom_seen count st r v hv)
    · rcases List.mem_cons.mp hv with rfl | hv
      · exact .inl seenr
      · exact .inr hv

/-- Every node below the bound gets a root, and joined nodes get the same one. -/
theorem build_closed :
    (∀ v, v < count → (build edge count).seen v = true) ∧
      ∀ v w, v < count → w < count → edge v w = true →
        (build edge count).component v = (build edge count).component w := by
  have start : Closed edge count .empty := by
    intro v w _ _ seenv
    cases seenv
  obtain ⟨closed, seen⟩ := foldl_closed symmetric (List.range count)
    (fun r hr => List.mem_range.mp hr) start
  have all : ∀ v, v < count → (build edge count).seen v = true :=
    fun v hv => seen v (.inr (List.mem_range.mpr hv))
  exact ⟨all, fun v w hv hw hvw => (closed v w hv hw (all v hv) hvw).2.symm⟩

end Components

/-! ### Forest edges -/

/-- A forest edge is an edge between two marked nodes of one component. -/
def Rooted (edge : Nat → Nat → Bool) (count : Nat) (st : State) : Prop :=
  ∀ c p, st.parent c = some p → c < count ∧ p < count ∧ c ≠ p ∧ edge p c = true ∧
    ∃ r, st.component c = some r ∧ st.component p = some r

/-- The nodes of a component whose search is running. -/
def Pending (count root : Nat) (st : State) (stack : List Nat) : Prop :=
  ∀ v ∈ stack, v < count ∧ st.component v = some root

lemma rooted_adopt {st : State} (rooted : Rooted edge count st) {current c : Nat}
    (hcurrent : current < count) (component : st.component current = some root)
    (hc : c < count) (hne : c ≠ current) (fresh : st.seen c = false)
    (hedge : edge current c = true) : Rooted edge count (st.adopt root current c) := by
  intro v p h
  by_cases hv : v = c
  · subst hv
    have hp : current = p := by simpa [State.adopt] using h
    subst hp
    exact ⟨hc, hcurrent, hne, hedge, root, by simp [State.adopt],
      by simpa [State.adopt, hne.symm] using component⟩
  · obtain ⟨hvc, hpc, hvp, he, r, hr, hr'⟩ := rooted v p (by simpa [State.adopt, hv] using h)
    have hp : p ≠ c := by
      rintro rfl
      rw [seen_of_component hr'] at fresh
      cases fresh
    exact ⟨hvc, hpc, hvp, he, r, by simpa [State.adopt, hv] using hr,
      by simpa [State.adopt, hp] using hr'⟩

/-- The rule of a build: what the opening of a root and an adoption preserve. -/
structure Preserved (edge : Nat → Nat → Bool) (count : Nat) (holds : State → Prop) : Prop where
  opens : ∀ st root, root < count → st.seen root = false → holds st → holds (st.openRoot root)
  adopts : ∀ st root current c, Rooted edge count st → current < count →
    st.component current = some root → c < count → c ≠ current → st.seen c = false →
    edge current c = true → holds st → holds (st.adopt root current c)

section Preservation

variable {holds : State → Prop} (preserved : Preserved edge count holds)
include preserved

lemma preserved_pop {st : State} {source : Nat} {stack : List Nat} (h : holds st)
    (rooted : Rooted edge count st) (pending : Pending count root st (source :: stack)) :
    (holds (pop (machine edge root) (descending count) st source stack).1 ∧
      Rooted edge count (pop (machine edge root) (descending count) st source stack).1) ∧
      Pending count root (pop (machine edge root) (descending count) st source stack).1
        (pop (machine edge root) (descending count) st source stack).2 := by
  obtain ⟨hsource, component⟩ := pending source List.mem_cons_self
  have final := @scan_induct _ (machine edge root) source
    (fun rest st stack => (∀ v ∈ rest, v < count) ∧ st.component source = some root ∧
      (holds st ∧ Rooted edge count st) ∧ Pending count root st stack)
    (fun c _ _ _ h _ => ⟨fun v hv => h.1 v (List.mem_cons_of_mem c hv), h.2⟩)
    (fun c rest st stack st' h hd => by
      obtain ⟨hne, fresh, hedge, rfl⟩ := discover_some_iff.mp hd
      obtain ⟨inside, component, ⟨h, rooted⟩, pending⟩ := h
      have hc := inside c List.mem_cons_self
      refine ⟨fun v hv => inside v (List.mem_cons_of_mem c hv),
        by simpa [State.adopt, hne.symm] using component,
        ⟨preserved.adopts st root source c rooted hsource component hc hne fresh hedge h,
          rooted_adopt rooted hsource component hc hne fresh hedge⟩, ?_⟩
      intro v hv
      by_cases hvc : v = c
      · exact ⟨hvc ▸ hc, by simp [State.adopt, hvc]⟩
      · obtain ⟨hlt, hcomp⟩ := pending v ((List.mem_cons.mp hv).resolve_left hvc)
        exact ⟨hlt, by simpa [State.adopt, hvc] using hcomp⟩)
    (descending count) st stack
    ⟨fun v hv => mem_descending.mp hv, component, ⟨h, rooted⟩,
      fun v hv => pending v (List.mem_cons_of_mem source hv)⟩
  exact final.2.2

lemma preserved_searchFrom {st : State} (hroot : root < count) (h : holds st)
    (rooted : Rooted edge count st) :
    holds (searchFrom edge count st root) ∧ Rooted edge count (searchFrom edge count st root) := by
  unfold searchFrom
  by_cases hseen : st.seen root = true
  · rw [if_pos hseen]
    exact ⟨h, rooted⟩
  rw [if_neg hseen]
  have fresh : st.seen root = false := by simpa using hseen
  have opened : Rooted edge count (st.openRoot root) := by
    intro c p h
    obtain ⟨hc, hp, hne, he, r, hr, hr'⟩ := rooted c p h
    have hcr : c ≠ root := by
      rintro rfl
      exact hseen (seen_of_component hr)
    have hpr : p ≠ root := by
      rintro rfl
      exact hseen (seen_of_component hr')
    exact ⟨hc, hp, hne, he, r, by simpa [State.openRoot, hcr] using hr,
      by simpa [State.openRoot, hpr] using hr'⟩
  have pending : Pending count root (st.openRoot root) [root] := by
    intro v hv
    rw [List.mem_singleton.mp hv]
    exact ⟨hroot, by simp [State.openRoot]⟩
  exact (drain_invariant (machine_marks edge root) (nodup_descending count)
    (fun st stack => (holds st ∧ Rooted edge count st) ∧ Pending count root st stack)
    (fun _ _ _ h => preserved_pop preserved h.1.1 h.1.2 h.2) count _ [root]
    (searchFrom_enough st hroot fresh)
    ⟨⟨preserved.opens st root hroot fresh h, opened⟩, pending⟩).1

/-- What a build starts with and its two actions preserve, the forest has. -/
theorem build_preserves (start : holds .empty) :
    holds (build edge count) ∧ Rooted edge count (build edge count) := by
  have step : ∀ roots : List Nat, (∀ r ∈ roots, r < count) → ∀ st, holds st →
      Rooted edge count st → holds (roots.foldl (searchFrom edge count) st) ∧
        Rooted edge count (roots.foldl (searchFrom edge count) st) := by
    intro roots
    induction roots with
    | nil => exact fun _ _ h rooted => ⟨h, rooted⟩
    | cons r rest ih =>
      intro inside st h rooted
      obtain ⟨h', rooted'⟩ := preserved_searchFrom preserved (inside r List.mem_cons_self) h rooted
      exact ih (fun v hv => inside v (List.mem_cons_of_mem r hv)) _ h' rooted'
  exact step (List.range count) (fun r hr => List.mem_range.mp hr) .empty start
    (fun _ _ h => by cases h)

end Preservation

theorem build_rooted : Rooted edge count (build edge count) :=
  (@build_preserves edge count (fun _ => True)
    ⟨fun _ _ _ _ h => h, fun _ _ _ _ _ _ _ _ _ _ _ h => h⟩ trivial).2

/-- A node without a parent is the root of its own component. -/
theorem build_orphans {c r : Nat} (component : (build edge count).component c = some r)
    (orphan : (build edge count).parent c = none) : r = c := by
  have preserved : Preserved edge count fun st =>
      ∀ c r, st.component c = some r → st.parent c = none → r = c := by
    constructor
    · intro st root _ _ own c r component orphan
      by_cases hc : c = root
      · rw [hc] at component ⊢
        simpa [State.openRoot] using component.symm
      · exact own c r (by simpa [State.openRoot, hc] using component) orphan
    · intro st root current candidate _ _ _ _ _ _ _ own c r component orphan
      by_cases hc : c = candidate
      · simp [State.adopt, hc] at orphan
      · exact own c r (by simpa [State.adopt, hc] using component)
          (by simpa [State.adopt, hc] using orphan)
  exact (build_preserves preserved fun _ _ h => by cases h).1 c r component orphan

/-- The parents form a forest: some rank falls from each node to its parent. -/
theorem build_ranked : ∃ rank : Nat → Nat, ∀ c p,
    (build edge count).parent c = some p → rank p < rank c := by
  have preserved : Preserved edge count fun st =>
      ∃ rank : Nat → Nat, ∀ c p, st.parent c = some p → rank p < rank c := by
    constructor
    · exact fun _ _ _ _ ranked => ranked
    · rintro st root current candidate rooted _ _ _ hne fresh _ ⟨rank, falls⟩
      refine ⟨Function.update rank candidate (rank current + 1), fun c p parent => ?_⟩
      by_cases hc : c = candidate
      · have hp : current = p := by simpa [State.adopt, hc] using parent
        rw [hc, Function.update_self, ← hp, Function.update_of_ne hne.symm]
        exact Nat.lt_succ_self _
      · have old : st.parent c = some p := by simpa [State.adopt, hc] using parent
        obtain ⟨-, -, -, -, r, -, marked⟩ := rooted c p old
        have hp : p ≠ candidate := by
          rintro rfl
          rw [seen_of_component marked] at fresh
          cases fresh
        rw [Function.update_of_ne hc, Function.update_of_ne hp]
        exact falls c p old
  exact (build_preserves preserved ⟨fun _ => 0, fun _ _ h => by cases h⟩).1

/-! ### Roots -/

/-- A node with a size is the root of its own component. -/
def Counts (count : Nat) (st : State) : Prop :=
  ∀ r, 0 < st.size r → r < count ∧ st.component r = some r

/-- Every recorded root is the root of its own component. -/
def Named (count : Nat) (st : State) : Prop :=
  ∀ c r, st.component c = some r → r < count ∧ st.component r = some r

lemma named_preserved : Preserved edge count (Named count) := by
  constructor
  · intro st root hroot fresh named c r component
    by_cases hc : c = root
    · have hr : root = r := by simpa [State.openRoot, hc] using component
      exact ⟨hr ▸ hroot, by simp [State.openRoot, ← hr]⟩
    · obtain ⟨below, own⟩ := named c r (by simpa [State.openRoot, hc] using component)
      have hr : r ≠ root := by
        rintro rfl
        rw [seen_of_component own] at fresh
        cases fresh
      exact ⟨below, by simpa [State.openRoot, hr] using own⟩
  · intro st root current candidate _ _ joined _ _ fresh _ named c r component
    -- A root is marked already, so an adoption never takes its component.
    have other : ∀ r, st.component r = some r →
        (st.adopt root current candidate).component r = some r := by
      intro r own
      have hr : r ≠ candidate := by
        rintro rfl
        rw [seen_of_component own] at fresh
        cases fresh
      simpa [State.adopt, hr] using own
    by_cases hc : c = candidate
    · have hr : root = r := by simpa [State.adopt, hc] using component
      obtain ⟨below, own⟩ := named current root joined
      exact ⟨hr ▸ below, hr ▸ other root own⟩
    · obtain ⟨below, own⟩ := named c r (by simpa [State.adopt, hc] using component)
      exact ⟨below, other r own⟩

theorem build_named : Named count (build edge count) :=
  (build_preserves named_preserved fun _ _ h => by cases h).1

theorem build_counts : Counts count (build edge count) := by
  have preserved : Preserved edge count fun st =>
      ∀ r, 0 < st.size r → ∃ c, st.component c = some r := by
    constructor
    · intro st root _ fresh sized r positive
      by_cases hr : r = root
      · exact ⟨root, by simp [State.openRoot, hr]⟩
      · obtain ⟨c, component⟩ := sized r (by simpa [State.openRoot, hr] using positive)
        have hc : c ≠ root := by
          rintro rfl
          rw [seen_of_component component] at fresh
          cases fresh
        exact ⟨c, by simpa [State.openRoot, hc] using component⟩
    · intro st root current candidate _ _ _ _ _ fresh _ sized r positive
      by_cases hr : r = root
      · exact ⟨candidate, by simp [State.adopt, hr]⟩
      · obtain ⟨c, component⟩ := sized r (by simpa [State.adopt, hr] using positive)
        have hc : c ≠ candidate := by
          rintro rfl
          rw [seen_of_component component] at fresh
          cases fresh
        exact ⟨c, by simpa [State.adopt, hc] using component⟩
  intro r positive
  obtain ⟨c, component⟩ := (build_preserves preserved
    fun r sized => absurd sized (Nat.lt_irrefl 0)).1 r positive
  exact build_named c r component

/-! ### Component sizes and component minima -/

/-- The nodes of a component. -/
def members (count : Nat) (st : State) (root : Nat) : Finset Nat :=
  (Finset.range count).filter fun c => st.component c = some root

lemma mem_members {st : State} {c : Nat} :
    c ∈ members count st root ↔ c < count ∧ st.component c = some root := by
  rw [members, Finset.mem_filter, Finset.mem_range]

/-- A fresh node that gets a root joins the members of that root and no others. -/
lemma card_members_join {st st' : State} {c : Nat} (inside : c < count)
    (fresh : st.seen c = false)
    (joins : st'.component = Function.update st.component c (some root)) (r : Nat) :
    (members count st' r).card = (members count st r).card + if r = root then 1 else 0 := by
  have unmarked : st.component c = none := by simpa [State.seen] using fresh
  by_cases own : r = root
  · subst own
    have grown : members count st' r = insert c (members count st r) := by
      ext v
      rw [Finset.mem_insert, mem_members, mem_members, joins]
      by_cases here : v = c
      · subst here
        simp [inside]
      · simp [here]
    rw [grown, Finset.card_insert_of_notMem, if_pos rfl]
    rw [mem_members, unmarked]
    rintro ⟨-, marked⟩
    cases marked
  · have same : members count st' r = members count st r := by
      ext v
      rw [mem_members, mem_members, joins]
      by_cases here : v = c
      · subst here
        simp [unmarked, Ne.symm own]
      · simp [here]
    rw [same, if_neg own, Nat.add_zero]

/-- The size that is counted for a root is the number of its members. -/
theorem build_sizes (r : Nat) :
    (build edge count).size r = (members count (build edge count) r).card := by
  have preserved : Preserved edge count fun st =>
      Named count st ∧ ∀ r, st.size r = (members count st r).card := by
    constructor
    · rintro st root inside fresh ⟨named, sized⟩
      refine ⟨(@named_preserved edge count).opens st root inside fresh named, fun r => ?_⟩
      have joins : (st.openRoot root).component =
          Function.update st.component root (some root) := rfl
      rw [card_members_join inside fresh joins r]
      by_cases own : r = root
      · have none : members count st root = ∅ := by
          apply Finset.eq_empty_of_forall_notMem
          intro c listed
          have marked := (named c root (mem_members.mp listed).2).2
          rw [seen_of_component marked] at fresh
          cases fresh
        simp [State.openRoot, own, none]
      · simp [State.openRoot, own, sized r]
    · rintro st root current c rooted within joined inside other fresh joint ⟨named, sized⟩
      refine ⟨named_preserved.adopts st root current c rooted within joined inside other fresh
        joint named, fun r => ?_⟩
      have joins : (st.adopt root current c).component =
          Function.update st.component c (some root) := rfl
      rw [card_members_join inside fresh joins r]
      by_cases own : r = root
      · simp [State.adopt, own, sized root]
      · simp [State.adopt, own, sized r]
  refine (build_preserves preserved ⟨?_, ?_⟩).1.2 r
  · exact fun _ _ h => by cases h
  · intro r
    simp [State.empty, members]

/-- After the roots below `bound` every node below it is marked, and no root exceeds what it
is the root of. -/
structure Lowest (bound : Nat) (st : State) : Prop where
  marked : ∀ v < bound, st.seen v = true
  below : ∀ c r, st.component c = some r → r ≤ c ∧ r < bound

lemma searchFrom_lowest {st : State} (lowest : Lowest root st) :
    Lowest (root + 1) (searchFrom edge count st root) := by
  unfold searchFrom
  by_cases seen : st.seen root = true
  · rw [if_pos seen]
    constructor
    · intro v inside
      rcases Nat.lt_succ_iff_lt_or_eq.mp inside with earlier | rfl
      · exact lowest.marked v earlier
      · exact seen
    · intro c r component
      obtain ⟨below, early⟩ := lowest.below c r component
      exact ⟨below, early.trans (Nat.lt_succ_self root)⟩
  · rw [if_neg seen]
    refine drain_preserves (Lowest (root + 1)) (descending count) (fun _ _ h => h) ?_ count _
      [root] ⟨?_, ?_⟩
    · rintro st source c st' - lowest found
      obtain ⟨-, fresh, -, rfl⟩ := discover_some_iff.mp found
      constructor
      · intro v inside
        rw [seen_adopt, lowest.marked v inside, Bool.true_or]
      · intro v r component
        by_cases here : v = c
        · have own : root = r := by simpa [State.adopt, here] using component
          have later : ¬c < root + 1 := fun earlier => by
            rw [lowest.marked c earlier] at fresh
            cases fresh
          omega
        · exact lowest.below v r (by simpa [State.adopt, here] using component)
    · intro v inside
      rw [seen_openRoot, Bool.or_eq_true, beq_iff_eq]
      exact (Nat.lt_succ_iff_lt_or_eq.mp inside).imp (lowest.marked v) id
    · intro v r component
      by_cases here : v = root
      · have own : root = r := by simpa [State.openRoot, here] using component
        omega
      · obtain ⟨below, early⟩ := lowest.below v r (by simpa [State.openRoot, here] using component)
        exact ⟨below, early.trans (Nat.lt_succ_self root)⟩

/-- The root of a component is its lowest node. -/
theorem build_lowest {c r : Nat} (component : (build edge count).component c = some r) :
    r ≤ c := by
  have roots : ∀ bound, Lowest bound ((List.range bound).foldl (searchFrom edge count) .empty) := by
    intro bound
    induction bound with
    | zero => exact ⟨fun v inside => absurd inside (Nat.not_lt_zero v), fun _ _ h => by cases h⟩
    | succ bound ih =>
      rw [List.range_succ, List.foldl_append]
      exact searchFrom_lowest ih
  exact ((roots count).below c r component).1

end SearchForest
