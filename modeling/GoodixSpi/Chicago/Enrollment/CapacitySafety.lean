import GoodixSpi.Chicago.Enrollment.CapacityScore
import GoodixSpi.Chicago.Packed.Lifecycle

/-! Study of a full gallery writes relations of any two sub-templates. It never meets a
missing slot exactly when the block of relations of every sub-template lies inside the
table, which `unpack` does not check. -/

namespace GoodixSpi.Chicago

open Worklist SearchForest

/-- A stage that meets no missing slot; `leaves` holds of what it returns. -/
def FindsSlots {α : Type} (stage : Except CapacityStop α) (leaves : α → Prop) : Prop :=
  match stage with
  | .ok value => leaves value
  | .error stop => stop ≠ .nullRelation

lemma FindsSlots.bind {α β : Type} {first : Except CapacityStop α}
    {next : α → Except CapacityStop β} {P : α → Prop} {Q : β → Prop} (here : FindsSlots first P)
    (later : ∀ value, P value → FindsSlots (next value) Q) : FindsSlots (first >>= next) Q := by
  cases first with
  | error stop => exact here
  | ok value => exact later value here

lemma FindsSlots.ne {α : Type} {stage : Except CapacityStop α} {P : α → Prop}
    (h : FindsSlots stage P) : stage ≠ .error .nullRelation := by
  rintro rfl
  exact h rfl

namespace Enrollment

variable {e e' e'' : Enrollment}

/-- Any two sub-templates have a slot in the table. -/
def SlotsExist (e : Enrollment) : Prop :=
  ∀ newer < e.count, ∀ older < newer, (e.relationBetweenSubtemplates newer older).isSome = true

/-- The block of each sub-template lies inside the table. -/
def BlocksFit (e : Enrollment) : Prop :=
  ∀ index, 1 ≤ index → index < e.count → (e.relationBase index).toNat + index ≤ e.relations.length

lemma relationBetween_isSome {newer older : Nat} (order : older < newer) :
    (e.relationBetweenSubtemplates newer older).isSome = true ↔
      e.relationIndex newer older < e.relations.length := by
  unfold relationBetweenSubtemplates
  constructor
  · intro h
    by_contra outside
    rw [if_neg fun inside => outside inside.2] at h
    cases h
  · intro inside
    rw [if_pos ⟨order, inside⟩]
    rfl

lemma relationIndex_toNat (newer older : Nat) :
    e.relationIndex newer older = ((e.relationBase newer).toNat + older) % 2 ^ 32 := by
  rw [relationIndex, UInt32.toNat_add, UInt32.toNat_ofNat']
  omega

/-- A base so large that the sum wraps has a slot of its own outside the table. -/
theorem slotsExist_iff (small : e.relations.length < 2 ^ 32) : e.SlotsExist ↔ e.BlocksFit := by
  constructor
  · intro slots index positive inside
    have slot : ∀ older < index,
        ((e.relationBase index).toNat + older) % 2 ^ 32 < e.relations.length := by
      intro older below
      rw [← relationIndex_toNat]
      exact (relationBetween_isSome below).mp (slots index inside older below)
    have start := slot 0 positive
    have last := slot (index - 1) (by omega)
    by_cases wraps : (e.relationBase index).toNat + (index - 1) < 2 ^ 32
    · rw [Nat.mod_eq_of_lt wraps] at last
      omega
    · have base := (e.relationBase index).toNat_lt
      have top := slot (2 ^ 32 - 1 - (e.relationBase index).toNat) (by omega)
      rw [show (e.relationBase index).toNat + (2 ^ 32 - 1 - (e.relationBase index).toNat) =
        2 ^ 32 - 1 by omega] at top
      omega
  · intro fit newer inside older below
    have block := fit newer (by omega) inside
    rw [relationBetween_isSome below, relationIndex_toNat]
    have reduced := Nat.mod_le ((e.relationBase newer).toNat + older) (2 ^ 32)
    omega

/-- The two have the same slots; the relations in them may differ. -/
structure SameSlots (e e' : Enrollment) : Prop where
  count : e'.count = e.count
  capacity : e'.capacity = e.capacity
  base : ∀ index, e'.relationBase index = e.relationBase index
  length : e'.relations.length = e.relations.length

lemma SameSlots.refl (e : Enrollment) : SameSlots e e := ⟨rfl, rfl, fun _ => rfl, rfl⟩

lemma SameSlots.trans (first : SameSlots e e') (second : SameSlots e' e'') : SameSlots e e'' :=
  ⟨second.count.trans first.count, second.capacity.trans first.capacity,
    fun index => (second.base index).trans (first.base index), second.length.trans first.length⟩

lemma SameSlots.between (same : SameSlots e e') (newer older : Nat) :
    e'.relationBetweenSubtemplates newer older = e.relationBetweenSubtemplates newer older := by
  unfold relationBetweenSubtemplates relationIndex
  rw [same.base, same.length]

lemma SameSlots.slotsExist (same : SameSlots e e') (slots : e.SlotsExist) : e'.SlotsExist := by
  intro newer inside older below
  rw [same.between]
  exact slots newer (by rw [← same.count]; exact inside) older below

end Enrollment

open Enrollment

namespace CapacityGraph

variable {g g' : CapacityGraph}

lemma sameSlots_setRelation (slot : Nat) (relation : Relation) :
    SameSlots g.enrollment (g.setRelation slot relation).enrollment :=
  ⟨rfl, rfl, fun _ => rfl, List.length_set⟩

lemma sameSlots_joinGroups (root candidate : Nat) :
    SameSlots g.enrollment (g.joinGroups root candidate).enrollment := by
  unfold joinGroups
  split
  · refine ⟨by simp [Enrollment.count], rfl, fun index => ?_, rfl⟩
    unfold relationBase
    rw [List.getElem?_mapIdx, Option.map_map]
    congr 2
    funext subtemplate
    simp only [Function.comp_apply]
    split <;> rfl
  · exact SameSlots.refl _

/-- A store fails only on a pair of sub-templates without a slot. -/
lemma store_sameSlots {first second : Nat} {transform : Transform} {strength : Int32}
    (h : g.store first second transform strength = some g') :
    SameSlots g.enrollment g'.enrollment := by
  unfold store at h
  dsimp only at h
  split at h
  · cases h
    exact SameSlots.refl _
  · split at h
    · cases h
      exact SameSlots.refl _
    · split at h
      · cases h
        exact SameSlots.refl _
      · split at h
        all_goals
          obtain ⟨slot, -, rfl⟩ := Option.map_eq_some_iff.mp h
          exact sameSlots_setRelation _ _

lemma store_isSome (slots : g.enrollment.SlotsExist) {first second : Nat}
    (first_le : first ≤ g.count) (second_le : second ≤ g.count) (transform : Transform)
    (strength : Int32) : (g.store first second transform strength).isSome = true := by
  unfold store
  dsimp only
  split
  · rfl
  · split
    · rfl
    · split
      · rfl
      · split
        · rw [Option.isSome_map]
          exact slots second (by unfold count at *; omega) first (by omega)
        · rw [Option.isSome_map]
          exact slots first (by unfold count at *; omega) second (by omega)

end CapacityGraph

open CapacityGraph

section Searches

variable {e : Enrollment}

/-- Propagation writes probe relations only. -/
lemma propagation_discover {state next : Propagation} {source candidate : Nat}
    (same : SameSlots e state.graph.enrollment) (clean : state.nullRelation = false)
    (h : (propagationMachine e.count).discover state source candidate = some next) :
    next.nullRelation = false ∧ SameSlots e next.graph.enrollment := by
  simp only [propagationMachine] at h
  split at h
  · cases h
  · split at h
    · cases h
    · split at h
      · cases h
        exact ⟨clean, same⟩
      · have probe : e.count = state.graph.count := same.count.symm
        rw [probe] at h
        split at h
        · next missing =>
          unfold store at missing
          dsimp only at missing
          split at missing
          · cases missing
          · rw [if_pos rfl] at missing
            cases missing
        · next stored =>
          cases h
          exact ⟨clean, same.trans (store_sameSlots stored)⟩

lemma propagate_findsSlots (g : CapacityGraph) (relationCount : Nat) :
    FindsSlots (g.propagate relationCount) fun left =>
      SameSlots g.enrollment left.1.enrollment := by
  have safe := drain_preserves (M := propagationMachine g.count)
    (fun state => state.nullRelation = false ∧ SameSlots g.enrollment state.graph.enrollment)
    (descending g.count) (fun _ _ h => h)
    (fun _ _ _ _ _ h discovered => propagation_discover h.2 h.1 discovered)
    (g.count + 1) ⟨g, false, fun _ => false, identityGroupTransform⟩ [g.count]
    ⟨rfl, SameSlots.refl _⟩
  unfold propagate
  split
  · exact CapacityStop.noConfusion
  · dsimp only
    rw [safe.1]
    exact safe.2

lemma synthesis_discover {state next : Synthesis} {root source candidate : Nat}
    (slots : e.SlotsExist) (rooted : root < e.count) (inside : candidate < e.count + 1)
    (same : SameSlots e state.graph.enrollment) (clean : state.nullRelation = false)
    (h : (synthesisMachine root).discover state source candidate = some next) :
    next.nullRelation = false ∧ SameSlots e next.graph.enrollment := by
  simp only [synthesisMachine] at h
  split at h
  · cases h
  · split at h
    · cases h
    · split at h
      · cases h
        exact ⟨clean, same⟩
      · split at h
        · next missing =>
          have counted : state.graph.count = e.count := same.count
          have root_le : root ≤ state.graph.count := by omega
          have candidate_le : candidate ≤ state.graph.count := by omega
          have found := store_isSome (same.slotsExist slots) root_le candidate_le
          exact absurd (found _ _) (by rw [missing]; exact Bool.false_ne_true)
        · next graph stored =>
          cases h
          refine ⟨clean, same.trans ((store_sameSlots stored).trans ?_)⟩
          dsimp only
          split
          · exact sameSlots_joinGroups root candidate
          · exact SameSlots.refl _

lemma searchFrom_safe {state : Synthesis} {root : Nat} (slots : e.SlotsExist)
    (rooted : root < e.count) (same : SameSlots e state.graph.enrollment)
    (clean : state.nullRelation = false) :
    (state.searchFrom root).nullRelation = false ∧
      SameSlots e (state.searchFrom root).graph.enrollment := by
  have counted : state.graph.count = e.count := same.count
  refine drain_preserves (M := synthesisMachine root)
    (fun state => state.nullRelation = false ∧ SameSlots e state.graph.enrollment)
    (descending (state.graph.count + 1)) (fun _ _ h => h) ?_ _ _ _ ⟨clean, same⟩
  intro st source candidate next listed h discovered
  have inside := mem_descending.mp listed
  exact synthesis_discover slots rooted (by omega) h.2 h.1 discovered

lemma synthesize_findsSlots {g : CapacityGraph} (slots : g.enrollment.SlotsExist)
    (relationCount : Nat) :
    FindsSlots (g.synthesize relationCount) fun left =>
      SameSlots g.enrollment left.enrollment := by
  have safe : ∀ (roots : List Nat) (state : Synthesis), (∀ root ∈ roots, root < g.count) →
      state.nullRelation = false → SameSlots g.enrollment state.graph.enrollment →
      (roots.foldl Synthesis.searchFrom state).nullRelation = false ∧
        SameSlots g.enrollment (roots.foldl Synthesis.searchFrom state).graph.enrollment := by
    intro roots
    induction roots with
    | nil => exact fun state _ clean same => ⟨clean, same⟩
    | cons root rest ih =>
      intro state inside clean same
      obtain ⟨clean', same'⟩ := searchFrom_safe slots (inside root List.mem_cons_self) same clean
      exact ih _ (fun r listed => inside r (List.mem_cons_of_mem root listed)) clean' same'
  obtain ⟨clean, same⟩ := safe (List.range g.count)
    ⟨g, false, fun _ => false, fun _ _ => 0, identityGroupTransform, 0⟩
    (fun _ listed => List.mem_range.mp listed) rfl (SameSlots.refl _)
  unfold synthesize
  split
  · exact CapacityStop.noConfusion
  · dsimp only
    rw [clean]
    exact same

lemma refineRelation_findsSlots (g : CapacityGraph) (probe : SubtemplateView)
    (visited : Nat → Bool) (builder : Option CapacityRelationBuilder) (index : Nat) :
    FindsSlots (refineRelation probe visited builder g index) fun left =>
      left.enrollment = g.enrollment := by
  unfold refineRelation
  split
  · split
    · exact rfl
    · split
      · exact rfl
      · exact CapacityStop.noConfusion
  · exact CapacityStop.noConfusion

lemma refineUnresolved_findsSlots (g : CapacityGraph) (probe : SubtemplateView)
    (visited : Nat → Bool) (builder : Option CapacityRelationBuilder) :
    FindsSlots (g.refineUnresolved probe visited builder) fun left =>
      left.enrollment = g.enrollment := by
  unfold refineUnresolved
  generalize List.range g.count = indices
  induction indices generalizing g with
  | nil => exact rfl
  | cons index rest ih =>
    rw [List.foldlM_cons]
    refine (refineRelation_findsSlots g probe visited builder index).bind fun next same => ?_
    rw [← same]
    exact ih next

lemma calculateCapacityScores_findsSlots (e : Enrollment) (probe : SubtemplateView)
    (relations : List Relation) :
    FindsSlots (e.calculateCapacityScores probe relations) fun _ => True := by
  unfold calculateCapacityScores
  split
  · trivial
  · split
    · exact CapacityStop.noConfusion
    · trivial

lemma reconstruct_findsSlots (slots : e.SlotsExist) (reconstructGallery : Bool) :
    FindsSlots (e.reconstruct reconstructGallery) fun left => SameSlots e left.enrollment := by
  unfold reconstruct
  split
  · exact synthesize_findsSlots slots e.count
  · exact SameSlots.refl e

/-- With a slot for every pair, a selection meets no missing one and leaves them all. -/
lemma selectCapacityReplacement_findsSlots (slots : e.SlotsExist) (probe : SubtemplateView)
    (selectedIndex : Nat) (probeRelations : List Relation) (reconstructGallery : Bool)
    (builder : Option CapacityRelationBuilder) :
    FindsSlots (e.selectCapacityReplacement probe selectedIndex probeRelations
      reconstructGallery builder) fun selection => SameSlots e selection.graph.enrollment := by
  unfold selectCapacityReplacement
  split
  · exact CapacityStop.noConfusion
  · refine (reconstruct_findsSlots slots reconstructGallery).bind fun rebuilt same => ?_
    refine (propagate_findsSlots _ _).bind fun left propagated => ?_
    refine (refineUnresolved_findsSlots _ _ _ _).bind fun refined unchanged => ?_
    have before : SameSlots e refined.enrollment := by
      rw [unchanged]
      exact same.trans propagated
    refine (synthesize_findsSlots (before.slotsExist slots) _).bind fun closed closure => ?_
    refine (calculateCapacityScores_findsSlots _ _ _).bind fun scores _ => ?_
    cases scores with
    | none => exact CapacityStop.noConfusion
    | some scores => exact before.trans closure

end Searches

namespace Enrollment

variable {e : Enrollment} {probe : SubtemplateView} {selectedIndex replacementIndex : Nat}
  {relations : List Relation}

lemma replaceRelation_isSome (slots : e.SlotsExist) (replaced : replacementIndex < e.count)
    (given : relations.length = e.count) {index : Nat} (inside : index < e.count)
    (table : List Relation) :
    (e.replaceRelation replacementIndex relations (some table) index).isSome = true := by
  unfold replaceRelation
  rw [List.getElem?_eq_getElem (by omega : index < relations.length)]
  dsimp only
  split
  · rfl
  · next other =>
    have slot := slots (max index replacementIndex) (by omega) (min index replacementIndex)
      (by omega)
    split
    · next missing =>
      rw [missing] at slot
      cases slot
    · split <;> rfl

lemma foldl_replaceRelation_isSome (slots : e.SlotsExist) (replaced : replacementIndex < e.count)
    (given : relations.length = e.count) (indices : List Nat)
    (inside : ∀ index ∈ indices, index < e.count) (table : List Relation) :
    (indices.foldl (e.replaceRelation replacementIndex relations) (some table)).isSome = true := by
  induction indices generalizing table with
  | nil => rfl
  | cons index rest ih =>
    have here := replaceRelation_isSome slots replaced given (inside index List.mem_cons_self) table
    obtain ⟨next, stored⟩ := Option.isSome_iff_exists.mp here
    rw [List.foldl_cons, stored]
    exact ih (fun v listed => inside v (List.mem_cons_of_mem index listed)) next

lemma replaceStudy_findsSlots (slots : e.SlotsExist) :
    e.replaceStudy probe selectedIndex replacementIndex relations ≠ .error .nullDereference := by
  unfold replaceStudy
  split
  · nofun
  · next admitted =>
    push Not at admitted
    obtain ⟨-, selected, replaced, valid⟩ := admitted
    obtain ⟨given, -, metric, -⟩ := probeIsValid_iff.mp (by simpa using valid)
    dsimp only
    split
    · have table := foldl_replaceRelation_isSome slots replaced given (List.range e.count)
        (fun _ listed => List.mem_range.mp listed) e.relations
      split
      · next missing =>
        rw [missing] at table
        cases table
      · nofun
    · next absent =>
      obtain ⟨metricData, found⟩ := Option.isSome_iff_exists.mp metric
      have inside : selectedIndex < (e.studySource selectedIndex).subtemplates.length := by
        rw [← Enrollment.count, studySource_count]
        exact selected
      exact absurd found (absent _ _ (List.getElem?_eq_getElem inside))

lemma foldl_replaceRelation_none (relations : List Relation) {index : Nat} (indices : List Nat)
    (listed : index ∈ indices) (other : index ≠ replacementIndex)
    (missing : e.relationBetweenSubtemplates (max index replacementIndex)
      (min index replacementIndex) = none) (table : Option (List Relation)) :
    indices.foldl (e.replaceRelation replacementIndex relations) table = none := by
  induction indices generalizing table with
  | nil => cases listed
  | cons first rest ih =>
    rw [List.foldl_cons]
    rcases List.mem_cons.mp listed with rfl | later
    · have here : e.replaceRelation replacementIndex relations table index = none := by
        unfold replaceRelation
        split
        · rw [if_neg other, missing]
        · rfl
      rw [here, replaceRelation_none]
    · exact ih later _

/-- A sample without records. -/
def emptyProbe : SubtemplateView where
  activeCount := 0
  quality := 0
  coverage := 0
  records := []
  hasMetricData := true
  metricData := some MetricData.zero
  densityPositivePercent := 0
  liveAuxiliary := Vector.replicate 6 0

/-- The pair of a missing slot is enough: the newer one is replaced. -/
lemma replaceStudy_null (full : e.count = e.capacity) {newer older : Nat} (inside : newer < e.count)
    (below : older < newer) (missing : e.relationBetweenSubtemplates newer older = none) :
    e.replaceStudy emptyProbe newer newer (List.replicate e.count sentinelRelation) =
      .error .nullDereference := by
  have valid : e.probeIsValid emptyProbe (List.replicate e.count sentinelRelation) = true :=
    probeIsValid_iff.mpr ⟨List.length_replicate, rfl, rfl, Nat.zero_le _, Nat.le_refl 0⟩
  have pair : e.relationBetweenSubtemplates (max older newer) (min older newer) = none := by
    rwa [Nat.max_eq_right (by omega), Nat.min_eq_left (by omega)]
  have listed : older ∈ List.range e.count := List.mem_range.mpr (by omega)
  have lost := foldl_replaceRelation_none (List.replicate e.count sentinelRelation)
    (List.range e.count) listed (by omega) pair (some e.relations)
  unfold replaceStudy
  rw [if_neg (by rw [valid]; simp [full] at inside ⊢; omega)]
  dsimp only
  split
  · rw [lost]
  · rfl

/-- No study of this full gallery dereferences a missing relation: not the selection of a
replacement, and no replacement before or after it. -/
structure StudiesSafely (e : Enrollment) : Prop where
  select : ∀ probe selectedIndex probeRelations reconstructGallery builder,
    e.selectCapacityReplacement probe selectedIndex probeRelations reconstructGallery builder ≠
      .error .nullRelation
  replace : ∀ probe selectedIndex replacementIndex relations,
    e.replaceStudy probe selectedIndex replacementIndex relations ≠ .error .nullDereference
  replaceSelected : ∀ probe selectedIndex probeRelations reconstructGallery builder selection,
    e.selectCapacityReplacement probe selectedIndex probeRelations reconstructGallery builder =
        .ok selection →
      ∀ replacementIndex relations,
        selection.graph.enrollment.replaceStudy probe selectedIndex replacementIndex relations ≠
          .error .nullDereference

lemma StudiesSafely.of_slots (slots : e.SlotsExist) : e.StudiesSafely where
  select probe selectedIndex probeRelations reconstructGallery builder :=
    (selectCapacityReplacement_findsSlots slots probe selectedIndex probeRelations
      reconstructGallery builder).ne
  replace _ _ _ _ := replaceStudy_findsSlots slots
  replaceSelected probe selectedIndex probeRelations reconstructGallery builder selection ok _ _ :=
    by
    have same := selectCapacityReplacement_findsSlots slots probe selectedIndex probeRelations
      reconstructGallery builder
    rw [ok] at same
    exact replaceStudy_findsSlots (SameSlots.slotsExist same slots)

lemma StudiesSafely.slots (full : e.count = e.capacity) (safe : e.StudiesSafely) :
    e.SlotsExist := by
  intro newer inside older below
  by_contra absent
  have missing : e.relationBetweenSubtemplates newer older = none := by simpa using absent
  exact safe.replace _ _ _ _ (replaceStudy_null full inside below missing)

end Enrollment

/-- A full gallery that `unpack` accepts can be studied safely exactly when the block of
relations of each sub-template lies inside the stored table. -/
theorem full_gallery_studies_safely {data : List UInt8} {e : Enrollment}
    (accepted : unpack data = .ok e) (full : e.count = e.capacity) :
    e.StudiesSafely ↔
      ∀ index, 1 ≤ index → index < e.count →
        (e.relationBase index).toNat + index ≤ e.relations.length := by
  have packable := (accepted_of_unpack accepted).packable
  have small : e.relations.length < 2 ^ 32 := by
    have few := packable.relations
    have bound : e.count * (e.count + 1) ≤ 50 * 51 :=
      Nat.mul_le_mul (packable.count.trans packable.capacity)
        (Nat.succ_le_succ (packable.count.trans packable.capacity))
    omega
  have blocks := slotsExist_iff small
  constructor
  · intro safe
    exact blocks.mp (safe.slots full)
  · intro fit
    exact .of_slots (blocks.mpr fit)

/-! ### Two prints of two sub-templates -/

/-- Two copies of one sample fill the gallery. -/
def pairGallery (relations : List Relation) : Enrollment :=
  { gridGallery with
    capacity := 2
    subtemplates := gridGallery.subtemplates ++ gridGallery.subtemplates
    relations := relations
    matchOrder := gridGallery.setMatchOrder 1 1 }

lemma pairGallery_packable (relations : List Relation) (few : relations.length ≤ 3) :
    (pairGallery relations).Packable where
  count := Nat.le_refl 2
  capacity := by
    show 2 ≤ enrollmentCapacity
    decide
  recordLimit := Nat.le_refl _
  subtemplates := by
    intro subtemplate listed
    rcases List.mem_append.mp listed with here | here
    all_goals
      obtain rfl := List.mem_singleton.mp here
      exact ⟨rfl, (by decide : 21 ≤ subtemplateRecordLimit), Nat.le_refl 21, Nat.two_pos⟩
  relations := by
    have two : (pairGallery relations).count = 2 := rfl
    rw [two]
    exact few
  scheduled := by
    have start : Scheduled gridGallery.orderAt 1 2 := ⟨by decide, by decide, by decide⟩
    exact start.append (by decide) rfl

lemma pairGallery_full (relations : List Relation) :
    (pairGallery relations).reload.count = (pairGallery relations).reload.capacity :=
  reload_count _

theorem full_gallery_studies_safely_pair :
    (pairGallery [sentinelRelation]).reload.StudiesSafely := by
  have accepted := (pairGallery_packable [sentinelRelation] (by decide)).pack_unpack.2
  refine (full_gallery_studies_safely accepted (pairGallery_full _)).mpr ?_
  decide

/-- The parser accepts a table that is too short. -/
theorem full_gallery_without_relations :
    ∃ data e, unpack data = .ok e ∧ e.count = e.capacity ∧ ¬e.StudiesSafely := by
  have accepted := (pairGallery_packable [] (by decide)).pack_unpack.2
  refine ⟨_, _, accepted, pairGallery_full _, fun safe => ?_⟩
  have slot := safe.slots (pairGallery_full []) 1 (by decide) 0 (by decide)
  revert slot
  decide

end GoodixSpi.Chicago
