import Mathlib.Tactic.Lemma
import Mathlib.Data.List.Basic
import Mathlib.Logic.Relation

/-! Joining components to the component of an anchor. Nodes are tried in ascending
order; a node whose component is still apart is joined through the first usable pair,
and its whole component is then renamed.

As for the forest search, a subgraph that keeps the chosen pairs is indistinguishable
from the graph. -/

namespace Bridges

structure State where
  component : Nat → Option Nat
  picks : List (Nat × Nat)

/-- The pair, if its far end is a member of the target component and it is usable. -/
def candidate (usable : Nat → Nat → Bool) (member : Nat → Bool) (component : Nat → Option Nat)
    (target : Option Nat) (a b : Nat) : Option (Nat × Nat) :=
  if component b = target ∧ member b = true ∧ usable a b = true then some (a, b) else none

def bridgeFrom (usable : Nat → Nat → Bool) (member : Nat → Bool) (count : Nat)
    (component : Nat → Option Nat) (source target : Option Nat) (a : Nat) : Option (Nat × Nat) :=
  if component a = source ∧ member a = true then
    (List.range count).findSome? (candidate usable member component target a)
  else none

/-- The first usable pair from a member of `source` to a member of `target`. -/
def bridge (usable : Nat → Nat → Bool) (member : Nat → Bool) (count : Nat)
    (component : Nat → Option Nat) (source target : Option Nat) : Option (Nat × Nat) :=
  (List.range count).findSome? (bridgeFrom usable member count component source target)

def connect (usable : Nat → Nat → Bool) (member : Nat → Bool) (count anchor : Nat)
    (st : State) (current : Nat) : State :=
  if member current = false ∨ st.component current = st.component anchor then st
  else
    match bridge usable member count st.component (st.component current)
        (st.component anchor) with
    | none => st
    | some pick =>
      { component := fun v =>
          if st.component v = st.component current then st.component anchor
          else st.component v
        picks := st.picks ++ [pick] }

def run (usable : Nat → Nat → Bool) (member : Nat → Bool) (count anchor : Nat)
    (component : Nat → Option Nat) : State :=
  (List.range count).foldl (connect usable member count anchor) ⟨component, []⟩

variable {usable : Nat → Nat → Bool} {member : Nat → Bool} {count anchor : Nat}

lemma candidate_some_iff {component : Nat → Option Nat} {target : Option Nat} {a b : Nat}
    {pick : Nat × Nat} :
    candidate usable member component target a b = some pick ↔
      pick = (a, b) ∧ component b = target ∧ member b = true ∧ usable a b = true := by
  unfold candidate
  split
  · next h => simpa [h] using eq_comm
  · next h =>
    simp only [reduceCtorEq, false_iff]
    exact fun g => h g.2

lemma bridgeFrom_usable {component : Nat → Option Nat} {source target : Option Nat} {a : Nat}
    {pick : Nat × Nat}
    (h : bridgeFrom usable member count component source target a = some pick) :
    pick.1 = a ∧ pick.2 < count ∧ usable pick.1 pick.2 = true := by
  unfold bridgeFrom at h
  split at h
  · obtain ⟨b, hb, h⟩ := List.exists_of_findSome?_eq_some h
    obtain ⟨rfl, -, -, hu⟩ := candidate_some_iff.mp h
    exact ⟨rfl, List.mem_range.mp hb, hu⟩
  · cases h

lemma bridge_usable {component : Nat → Option Nat} {source target : Option Nat} {pick : Nat × Nat}
    (h : bridge usable member count component source target = some pick) :
    pick.1 < count ∧ pick.2 < count ∧ usable pick.1 pick.2 = true := by
  obtain ⟨a, ha, h⟩ := List.exists_of_findSome?_eq_some h
  obtain ⟨rfl, below, hu⟩ := bridgeFrom_usable h
  exact ⟨List.mem_range.mp ha, below, hu⟩

lemma connect_picks (st : State) (current : Nat) :
    ∃ later, (connect usable member count anchor st current).picks = st.picks ++ later ∧
      ∀ pick ∈ later, pick.1 < count ∧ pick.2 < count ∧ usable pick.1 pick.2 = true := by
  unfold connect
  split
  · exact ⟨[], by simp, by simp⟩
  · split
    · exact ⟨[], by simp, by simp⟩
    · next pick hpick => exact ⟨[pick], rfl, by simpa using bridge_usable hpick⟩

lemma foldl_picks (nodes : List Nat) (st : State) :
    ∃ later, (nodes.foldl (connect usable member count anchor) st).picks = st.picks ++ later ∧
      ∀ pick ∈ later, pick.1 < count ∧ pick.2 < count ∧ usable pick.1 pick.2 = true := by
  induction nodes generalizing st with
  | nil => exact ⟨[], by simp, by simp⟩
  | cons v rest ih =>
    obtain ⟨first, h₁, usable₁⟩ := @connect_picks usable member count anchor st v
    obtain ⟨later, h₂, usable₂⟩ := ih (connect usable member count anchor st v)
    refine ⟨first ++ later, by rw [List.foldl_cons, h₂, h₁, List.append_assoc], ?_⟩
    intro pick hp
    rcases List.mem_append.mp hp with hp | hp
    · exact usable₁ pick hp
    · exact usable₂ pick hp

/-- Every pick joins two nodes below the bound through a usable pair. -/
theorem run_usable {component : Nat → Option Nat} {pick : Nat × Nat}
    (h : pick ∈ (run usable member count anchor component).picks) :
    pick.1 < count ∧ pick.2 < count ∧ usable pick.1 pick.2 = true := by
  obtain ⟨later, hl, holds⟩ := @foldl_picks usable member count anchor
    (List.range count) ⟨component, []⟩
  rw [run, hl, List.nil_append] at h
  exact holds pick h

/-! ### Components only merge -/

lemma bridgeFrom_some {component : Nat → Option Nat} {source target : Option Nat} {a : Nat}
    {pick : Nat × Nat}
    (h : bridgeFrom usable member count component source target a = some pick) :
    component pick.1 = source ∧ member pick.1 = true ∧ component pick.2 = target ∧
      member pick.2 = true := by
  unfold bridgeFrom at h
  split at h
  · next near =>
    obtain ⟨b, -, h⟩ := List.exists_of_findSome?_eq_some h
    obtain ⟨rfl, far, member, -⟩ := candidate_some_iff.mp h
    exact ⟨near.1, near.2, far, member⟩
  · cases h

lemma bridge_some {component : Nat → Option Nat} {source target : Option Nat} {pick : Nat × Nat}
    (h : bridge usable member count component source target = some pick) :
    component pick.1 = source ∧ member pick.1 = true ∧ component pick.2 = target ∧
      member pick.2 = true := by
  obtain ⟨a, -, h⟩ := List.exists_of_findSome?_eq_some h
  exact bridgeFrom_some h

/-- What a node can do: nothing, or its whole component joins the anchor's through a pick
between the two. -/
lemma connect_cases (st : State) (current : Nat) :
    connect usable member count anchor st current = st ∨
      ∃ pick, member current = true ∧ st.component current ≠ st.component anchor ∧
        bridge usable member count st.component (st.component current) (st.component anchor) =
          some pick ∧
        connect usable member count anchor st current =
          { component := fun v =>
              if st.component v = st.component current then st.component anchor
              else st.component v
            picks := st.picks ++ [pick] } := by
  unfold connect
  split
  · exact .inl rfl
  · next apart =>
    obtain ⟨joins, differ⟩ := not_or.mp apart
    split
    · exact .inl rfl
    · next pick found => exact .inr ⟨pick, by simpa using joins, differ, found, rfl⟩

/-- The rule of a run: what joining one component to the anchor's preserves. -/
theorem run_induct (holds : State → Prop) {component : Nat → Option Nat}
    (start : holds ⟨component, []⟩)
    (joins : ∀ st current pick, holds st → current < count → member current = true →
      st.component current ≠ st.component anchor →
      bridge usable member count st.component (st.component current) (st.component anchor) =
        some pick →
      holds { component := fun v =>
                if st.component v = st.component current then st.component anchor
                else st.component v
              picks := st.picks ++ [pick] }) :
    holds (run usable member count anchor component) := by
  have fold : ∀ (nodes : List Nat) (st : State), (∀ v ∈ nodes, v < count) → holds st →
      holds (nodes.foldl (connect usable member count anchor) st) := by
    intro nodes
    induction nodes with
    | nil => exact fun _ _ h => h
    | cons v rest ih =>
      intro st below h
      apply ih _ fun later listed => below later (List.mem_cons_of_mem v listed)
      rcases @connect_cases usable member count anchor st v with
        same | ⟨pick, joined, differ, found, next⟩
      · rw [same]
        exact h
      · rw [next]
        exact joins st v pick h (below v List.mem_cons_self) joined differ found
  exact fold _ _ (fun _ listed => List.mem_range.mp listed) start

/-- A pick joins two components of the given labelling. -/
theorem run_apart {component : Nat → Option Nat} {pick : Nat × Nat}
    (h : pick ∈ (run usable member count anchor component).picks) :
    component pick.1 ≠ component pick.2 := by
  have merged := @run_induct usable member count anchor
    (fun st => (∀ v w, component v = component w → st.component v = st.component w) ∧
      ∀ pick ∈ st.picks, component pick.1 ≠ component pick.2) component
    ⟨fun _ _ same => same, fun _ listed => by cases listed⟩
    (fun st current pick inv _ _ differ found => by
      obtain ⟨coarser, apart⟩ := inv
      obtain ⟨near, -, far, -⟩ := bridge_some found
      constructor
      · intro v w same
        simp only [coarser v w same]
      · intro other listed
        rcases List.mem_append.mp listed with earlier | last
        · exact apart other earlier
        · rw [List.mem_singleton.mp last]
          intro same
          have joined := coarser _ _ same
          rw [near, far] at joined
          exact differ joined)
  exact merged.2 pick h

/-! ### What a run joins -/

/-- One step between nodes of one component or along a pick. -/
def Linked (count : Nat) (component : Nat → Option Nat) (picks : List (Nat × Nat))
    (a b : Nat) : Prop :=
  a < count ∧ b < count ∧ (component a = component b ∨ (a, b) ∈ picks ∨ (b, a) ∈ picks)

instance (component : Nat → Option Nat) (picks : List (Nat × Nat)) :
    Std.Symm (Linked count component picks) where
  symm a b h := by
    obtain ⟨left, right, same | pick | pick⟩ := h
    · exact ⟨right, left, .inl same.symm⟩
    · exact ⟨right, left, .inr (.inr pick)⟩
    · exact ⟨right, left, .inr (.inl pick)⟩

lemma linked_mono (component : Nat → Option Nat) (picks : List (Nat × Nat)) (pick : Nat × Nat) :
    Relation.ReflTransGen (Linked count component picks) ≤
      Relation.ReflTransGen (Linked count component (picks ++ [pick])) := by
  apply Relation.ReflTransGen.mono
  rintro a b ⟨left, right, same | listed | listed⟩
  · exact ⟨left, right, .inl same⟩
  · exact ⟨left, right, .inr (.inl (List.mem_append_left _ listed))⟩
  · exact ⟨left, right, .inr (.inr (List.mem_append_left _ listed))⟩

/-- Components merge along picks only. -/
theorem run_linked {component : Nat → Option Nat} {v w : Nat} (hv : v < count) (hw : w < count)
    (same : (run usable member count anchor component).component v =
      (run usable member count anchor component).component w) :
    Relation.ReflTransGen
      (Linked count component (run usable member count anchor component).picks) v w := by
  have merged := @run_induct usable member count anchor
    (fun st => ∀ v w, v < count → w < count → st.component v = st.component w →
      Relation.ReflTransGen (Linked count component st.picks) v w) component
    (fun v w hv hw same => .single ⟨hv, hw, .inl same⟩)
    (fun st current pick linked below _ differ found => by
      obtain ⟨near, -, far, -⟩ := bridge_some found
      obtain ⟨left, right, -⟩ := bridge_usable found
      have wider := @linked_mono count component st.picks pick
      have across : Linked count component (st.picks ++ [pick]) pick.1 pick.2 :=
        ⟨left, right, .inr (.inl (List.mem_append_right _ (List.mem_singleton.mpr rfl)))⟩
      -- A renamed node reaches the anchor's component through the pick.
      have through : ∀ v w, v < count → w < count → st.component v = st.component current →
          st.component w = st.component anchor →
          Relation.ReflTransGen (Linked count component (st.picks ++ [pick])) v w :=
        fun v w hv hw source target =>
          (wider _ _ (linked v pick.1 hv left (source.trans near.symm))).trans
            (.head across (wider _ _ (linked pick.2 w right hw (far.trans target.symm))))
      intro v w hv hw same
      dsimp only at same
      split at same
      · next renamed =>
        split at same
        · next renamed' => exact wider _ _ (linked v w hv hw (renamed.trans renamed'.symm))
        · exact through v w hv hw renamed same.symm
      · split at same
        · next renamed' => exact Std.Symm.symm _ _ (through w v hw hv renamed' same)
        · exact wider _ _ (linked v w hv hw same))
  exact merged v w hv hw same

/-- The state before node `bound` is tried. -/
def runTo (usable : Nat → Nat → Bool) (member : Nat → Bool) (count anchor : Nat)
    (component : Nat → Option Nat) (bound : Nat) : State :=
  (List.range bound).foldl (connect usable member count anchor) ⟨component, []⟩

lemma runTo_succ (component : Nat → Option Nat) (bound : Nat) :
    runTo usable member count anchor component (bound + 1) =
      connect usable member count anchor (runTo usable member count anchor component bound)
        bound := by
  rw [runTo, List.range_succ, List.foldl_append]
  rfl

lemma connect_merges {st : State} {v w : Nat} (current : Nat)
    (same : st.component v = st.component w) :
    (connect usable member count anchor st current).component v =
      (connect usable member count anchor st current).component w := by
  rcases @connect_cases usable member count anchor st current with unchanged | ⟨_, _, _, _, next⟩
  · rw [unchanged]
    exact same
  · rw [next]
    simp only [same]

lemma runTo_merges {component : Nat → Option Nat} {v w earlier later : Nat}
    (order : earlier ≤ later)
    (same : (runTo usable member count anchor component earlier).component v =
      (runTo usable member count anchor component earlier).component w) :
    (runTo usable member count anchor component later).component v =
      (runTo usable member count anchor component later).component w := by
  induction order with
  | refl => exact same
  | step _ ih =>
    rw [runTo_succ]
    exact connect_merges _ ih

/-- A member that has a usable pair into the anchor's component joins it. -/
lemma connect_joins {st : State} {current target : Nat} (below : current < count)
    (inside : target < count) (joins : member current = true) (far : member target = true)
    (reached : st.component target = st.component anchor)
    (pair : usable current target = true) :
    (connect usable member count anchor st current).component current =
      (connect usable member count anchor st current).component anchor := by
  unfold connect
  split
  · next already =>
    rcases already with absent | same
    · rw [joins] at absent
      cases absent
    · exact same
  · next apart =>
    split
    · next missing =>
      rw [bridge, List.findSome?_eq_none_iff] at missing
      have skipped := missing current (List.mem_range.mpr below)
      rw [bridgeFrom, if_pos ⟨rfl, joins⟩, List.findSome?_eq_none_iff] at skipped
      have refused := skipped target (List.mem_range.mpr inside)
      rw [candidate, if_pos ⟨reached, far, pair⟩] at refused
      cases refused
    · dsimp only
      rw [if_pos rfl]
      split
      · rfl
      · rfl

/-! ### Stability -/

/-- A search whose steps only lose answers, but keep the one it returned. -/
lemma findSome?_stable {α β : Type} (items : List α) {f g : α → Option β}
    (fewer : ∀ a, f a = none → g a = none)
    (kept : ∀ b, items.findSome? f = some b → ∀ a, f a = some b → g a = some b) :
    items.findSome? g = items.findSome? f := by
  induction items with
  | nil => rfl
  | cons a rest ih =>
    cases hf : f a with
    | none =>
      have hg := fewer a hf
      simp only [List.findSome?_cons, hf] at kept
      simp only [List.findSome?_cons, hf, hg]
      exact ih kept
    | some b =>
      simp only [List.findSome?_cons, hf] at kept
      have hg := kept b rfl a hf
      simp only [List.findSome?_cons, hf, hg]

section Stability

variable {sub : Nat → Nat → Bool} (subgraph : ∀ a b, sub a b = true → usable a b = true)
  {component : Nat → Option Nat} {source target : Option Nat}
include subgraph

lemma candidate_none {a b : Nat} (h : candidate usable member component target a b = none) :
    candidate sub member component target a b = none := by
  by_contra hne
  obtain ⟨pick, hp⟩ := Option.ne_none_iff_exists'.mp hne
  obtain ⟨rfl, hc, hm, hs⟩ := candidate_some_iff.mp hp
  have := candidate_some_iff.mpr ⟨rfl, hc, hm, subgraph a b hs⟩
  rw [h] at this
  cases this

lemma bridgeFrom_none {a : Nat}
    (h : bridgeFrom usable member count component source target a = none) :
    bridgeFrom sub member count component source target a = none := by
  unfold bridgeFrom at h ⊢
  split at h
  · next ha =>
    rw [if_pos ha]
    rw [List.findSome?_eq_none_iff] at h ⊢
    exact fun b hb => candidate_none subgraph (h b hb)
  · next ha => rw [if_neg ha]

lemma bridgeFrom_kept {a : Nat} {pick : Nat × Nat} (kept : sub pick.1 pick.2 = true)
    (h : bridgeFrom usable member count component source target a = some pick) :
    bridgeFrom sub member count component source target a = some pick := by
  unfold bridgeFrom at h ⊢
  split at h
  · next ha =>
    rw [if_pos ha, ← h]
    refine findSome?_stable _ (fun b => candidate_none subgraph) ?_
    intro pick' chosen b hb
    rw [h] at chosen
    cases chosen
    obtain ⟨rfl, hc, hm, -⟩ := candidate_some_iff.mp hb
    exact candidate_some_iff.mpr ⟨rfl, hc, hm, kept⟩
  · cases h

lemma bridge_stable
    (kept : ∀ pick, bridge usable member count component source target = some pick →
      sub pick.1 pick.2 = true) :
    bridge sub member count component source target =
      bridge usable member count component source target :=
  findSome?_stable _ (fun _ => bridgeFrom_none subgraph)
    fun pick chosen _ h => bridgeFrom_kept subgraph (kept pick chosen) h

lemma connect_stable (st : State) (current : Nat)
    (kept : ∀ pick ∈ (connect usable member count anchor st current).picks,
      sub pick.1 pick.2 = true) :
    connect sub member count anchor st current =
      connect usable member count anchor st current := by
  unfold connect at kept ⊢
  split
  · rfl
  · next h =>
    rw [if_neg h] at kept
    have same := @bridge_stable usable member count sub subgraph
      st.component (st.component current) (st.component anchor) fun pick hp => by
        rw [hp] at kept
        exact kept pick (by simp)
    rw [same]

/-- Runs over a graph and over a subgraph that keeps the picks coincide. -/
theorem run_stable (component : Nat → Option Nat)
    (kept : ∀ pick ∈ (run usable member count anchor component).picks,
      sub pick.1 pick.2 = true) :
    run sub member count anchor component = run usable member count anchor component := by
  have fold : ∀ (nodes : List Nat) (st : State),
      (∀ pick ∈ (nodes.foldl (connect usable member count anchor) st).picks,
        sub pick.1 pick.2 = true) →
      nodes.foldl (connect sub member count anchor) st =
        nodes.foldl (connect usable member count anchor) st := by
    intro nodes
    induction nodes with
    | nil => intro st _; rfl
    | cons v rest ih =>
      intro st kept
      obtain ⟨later, hl, -⟩ := @foldl_picks usable member count anchor rest
        (connect usable member count anchor st v)
      rw [List.foldl_cons] at kept
      have same := @connect_stable usable member count anchor sub subgraph
        st v fun pick hp =>
          kept pick (by rw [hl]; exact List.mem_append_left later hp)
      rw [List.foldl_cons, List.foldl_cons, same]
      exact ih _ kept
  exact fold _ _ kept

end Stability

end Bridges
