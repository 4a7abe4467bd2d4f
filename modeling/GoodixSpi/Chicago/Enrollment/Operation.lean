import GoodixSpi.Chicago.Enrollment.Study
import GoodixSpi.Lib.Reachability

/-! The operations on an enrollment, and what a successful one leaves behind. -/

namespace GoodixSpi.Chicago

inductive Operation
  | insertFirst (sample : Sample)
  | insertNext (sample : Sample)
  | dropLast
  | appendStudy (probe : SubtemplateView) (selectedIndex : Nat) (relations : List Relation)
  | replaceStudy (probe : SubtemplateView) (selectedIndex replacementIndex : Nat)
      (relations : List Relation)

namespace Enrollment

/-- The state after an operation that succeeds. -/
def step (self : Enrollment) : Operation → Option Enrollment
  | .insertFirst sample => (self.insertFirst sample).toOption.map Prod.fst
  | .insertNext sample => (self.insertNext sample).toOption.map Prod.fst
  | .dropLast => self.dropLast.toOption
  | .appendStudy probe selectedIndex relations =>
    (self.appendStudy probe selectedIndex relations).toOption.map Prod.fst
  | .replaceStudy probe selectedIndex replacementIndex relations =>
    (self.replaceStudy probe selectedIndex replacementIndex relations).toOption

lemma ok_of_toOption {ε α : Type} {outcome : Except ε α} {value : α}
    (h : outcome.toOption = some value) : outcome = .ok value := by
  cases outcome with
  | error failure => cases h
  | ok found =>
    cases h
    rfl

lemma ok_of_toOption_fst {ε α β : Type} {outcome : Except ε (α × β)} {value : α}
    (h : outcome.toOption.map Prod.fst = some value) : ∃ extra, outcome = .ok (value, extra) := by
  obtain ⟨⟨found, extra⟩, ok, rfl⟩ := Option.map_eq_some_iff.mp h
  exact ⟨extra, ok_of_toOption ok⟩

end Enrollment

/-- An enrollment that permitted operations make out of a new one. -/
abbrev Reachable (permitted : Enrollment → Operation → Prop) (e : Enrollment) : Prop :=
  Reachability.Reaches Enrollment.step permitted Enrollment.new e

/-- A sub-template without the two fields that change while it stays in place. -/
def Subtemplate.core (subtemplate : Subtemplate) : Subtemplate :=
  { subtemplate with groupState := 0, studyValueA := 0 }

namespace Subtemplate

variable (subtemplate : Subtemplate)

@[simp] lemma core_records : subtemplate.core.records = subtemplate.records := rfl

@[simp] lemma core_activeCount : subtemplate.core.activeCount = subtemplate.activeCount := rfl

@[simp] lemma core_hasMetricData :
    subtemplate.core.hasMetricData = subtemplate.hasMetricData := rfl

@[simp] lemma core_lineageIndex : subtemplate.core.lineageIndex = subtemplate.lineageIndex := rfl

@[simp] lemma core_relationBase : subtemplate.core.relationBase = subtemplate.relationBase := rfl

end Subtemplate

namespace Enrollment

variable {self other : Enrollment}

/-- `after` is `before` with one more sub-template and `block` more relations. -/
structure Grows (before after : Enrollment) (added : Subtemplate) (block : Nat) : Prop where
  requiredSamples : after.requiredSamples = before.requiredSamples
  capacity : after.capacity = before.capacity
  recordLimit : after.recordLimit = before.recordLimit
  cores : after.subtemplates.map Subtemplate.core =
    before.subtemplates.map Subtemplate.core ++ [added.core]
  relations : after.relations.length = before.relations.length + block
  transformCount : after.transformCount = after.relations.length
  matchOrder : after.matchOrder = before.setMatchOrder before.count before.count

/-! ### Insertion -/

lemma insertFirst_ok {sample : Sample} {result : EnrollmentResult}
    (h : self.insertFirst sample = .ok (other, result)) :
    self.count = 0 ∧ sample.records.length ≤ self.recordLimit ∧
      sample.activeCount ≤ sample.records.length ∧
      other = { self with
        subtemplates := self.subtemplates ++ [.fresh sample.records sample.activeCount
          sample.quality sample.coverage sample.metricData self.count]
        matchOrder := self.setMatchOrder 0 0
        relations := self.relations ++ [sentinelRelation]
        transformCount := self.transformCount + 1 } := by
  unfold insertFirst at h
  split at h
  · cases h
  · next empty =>
    split at h
    · cases h
    · next counts =>
      cases h
      push Not at empty counts
      exact ⟨empty, counts.1, counts.2, rfl⟩

lemma insertNext_ok {sample : Sample} {result : EnrollmentResult}
    (h : self.insertNext sample = .ok (other, result)) :
    ∃ metricData, sample.metricData = some metricData ∧ self.count ≠ 0 ∧
      self.count < self.capacity ∧ sample.records.length ≤ self.recordLimit ∧
      sample.activeCount ≤ sample.records.length ∧
      (∀ old ∈ self.subtemplates, old.hasMetricData = true) ∧
      other = self.insertCompared sample metricData
        (self.subtemplates.map (compare sample metricData)) := by
  unfold insertNext at h
  split at h
  · cases h
  · next room =>
    split at h
    · cases h
    · next metricData given =>
      split at h
      · cases h
      · next counts =>
        split at h
        · cases h
        · next metric =>
          cases h
          push Not at room counts
          refine ⟨metricData, given, room.1, room.2, counts.1, counts.2, ?_, rfl⟩
          simpa using metric

/-- Nothing else refuses a later insertion. -/
lemma step_insertNext {sample : Sample} {metricData : MetricData}
    (given : sample.metricData = some metricData) (started : self.count ≠ 0)
    (room : self.count < self.capacity) (fits : sample.records.length ≤ self.recordLimit)
    (active : sample.activeCount ≤ sample.records.length)
    (metric : ∀ old ∈ self.subtemplates, old.hasMetricData = true) :
    self.step (.insertNext sample) = some (self.insertCompared sample metricData
      (self.subtemplates.map (compare sample metricData))) := by
  have known : (self.subtemplates.any fun old => !old.hasMetricData) = false := by
    simpa using metric
  rw [step, insertNext, if_neg (by omega)]
  simp only [given]
  rw [if_neg (by omega)]
  simp only [known]
  rfl

/-- The sub-template of an insertion into `self`. -/
def newSubtemplate (self : Enrollment) (sample : Sample) (metricData : MetricData)
    (groupState : UInt32) : Subtemplate :=
  { Subtemplate.fresh sample.records sample.activeCount sample.quality sample.coverage
      (some metricData) self.count with
    relationBase := UInt32.ofNat self.relations.length
    groupState }

lemma appendSample_grows (self : Enrollment) (sample : Sample) (metricData : MetricData)
    (groupState : UInt32) (relations : List Relation) :
    Grows self (self.appendSample sample metricData groupState relations)
      (self.newSubtemplate sample metricData 0) relations.length where
  requiredSamples := rfl
  capacity := rfl
  recordLimit := rfl
  cores := by
    simp only [appendSample, List.map_append, List.map_cons, List.map_nil]
    rfl
  relations := by simp [appendSample]
  transformCount := by simp [appendSample]
  matchOrder := rfl

lemma length_synthesizeOne (current : Nat) (relations : List Relation) (pair : Nat × Nat) :
    (self.synthesizeOne current relations pair).length = relations.length := by
  unfold synthesizeOne
  dsimp only
  split
  · split
    · rfl
    · exact List.length_set
  · rfl

lemma length_synthesizeFirstGroupRelations (current : Nat) :
    (self.synthesizeFirstGroupRelations current).relations.length = self.relations.length := by
  simp only [synthesizeFirstGroupRelations]
  generalize pairsBelow current = pairs
  generalize started : self.relations = relations
  clear started
  induction pairs generalizing relations with
  | nil => rfl
  | cons pair rest ih => rw [List.foldl_cons, ih, length_synthesizeOne]

/-- Does the new sample join the group that is there? -/
def joinsGroup (self : Enrollment) (metricData : MetricData) (comparisons : List Comparison) :
    Bool :=
  self.hasGroup && (self.findCandidate metricData comparisons).isSome

/-- Does the new sample turn all sub-templates into the first group? -/
def formsGroup (self : Enrollment) (metricData : MetricData) (comparisons : List Comparison) :
    Bool :=
  !self.hasGroup && (self.findCandidate metricData comparisons).any fun candidate =>
    decide (candidate.selectorScore > 205)

/-- The three outcomes of an accepted insertion. -/
inductive Outcome (self : Enrollment) (sample : Sample) (metricData : MetricData)
    (comparisons : List Comparison) : Enrollment → Prop
  | alone (lone : self.joinsGroup metricData comparisons = false)
      (closed : self.formsGroup metricData comparisons = false) :
      Outcome self sample metricData comparisons
        (self.appendSample sample metricData 0 (comparisons.map Comparison.relation))
  | joins (candidate : Candidate) (joined : self.joinsGroup metricData comparisons = true)
      (found : self.findCandidate metricData comparisons = some candidate) :
      Outcome self sample metricData comparisons
        ((self.appendSample sample metricData 1
          (comparisons.map Comparison.relation)).joinGroup self.count candidate.index)
  | opens (candidate : Candidate) (formed : self.formsGroup metricData comparisons = true)
      (found : self.findCandidate metricData comparisons = some candidate) (opened : Enrollment)
      (opened_eq : opened = ((self.openGroup candidate.index).appendSample sample metricData 1
        (comparisons.map Comparison.relation)).synthesizeFirstGroupRelations self.count) :
      Outcome self sample metricData comparisons
        { opened with
          groupEdges := opened.groupEdges ++ acceptedEdges self.relations.length comparisons }

lemma insertCompared_outcome (self : Enrollment) (sample : Sample) (metricData : MetricData)
    (comparisons : List Comparison) :
    Outcome self sample metricData comparisons
      (self.insertCompared sample metricData comparisons) := by
  unfold insertCompared
  dsimp only
  split
  · next none_ => exact .alone (by simp [joinsGroup, none_]) (by simp [formsGroup, none_])
  · next candidate found =>
    split
    · next grouped => exact .joins candidate (by simp [joinsGroup, found, grouped]) found
    · next ungrouped =>
      split
      · next selector =>
        refine .opens candidate ?_ found _ rfl
        simp only [formsGroup, found, Option.any_some, decide_eq_true selector, Bool.and_true]
        simpa using ungrouped
      · next low =>
        refine .alone (by simp [joinsGroup, ungrouped]) ?_
        simp only [formsGroup, found, Option.any_some, decide_eq_false low, Bool.and_false]

lemma Outcome.grows {sample : Sample} {metricData : MetricData} {comparisons : List Comparison}
    (h : Outcome self sample metricData comparisons other) :
    Grows self other (self.newSubtemplate sample metricData 0) comparisons.length := by
  have appended := appendSample_grows self sample metricData 0
    (comparisons.map Comparison.relation)
  cases h with
  | alone lone closed => simpa only [List.length_map] using appended
  | joins candidate _ found =>
    have joined := appendSample_grows self sample metricData 1
      (comparisons.map Comparison.relation)
    rw [List.length_map] at joined
    exact
      { joined with
        relations := by
          simp only [joinGroup, List.length_modify]
          exact joined.relations
        transformCount := by
          simp only [joinGroup, List.length_modify]
          exact joined.transformCount }
  | opens candidate formed found opened opened_eq =>
    subst opened_eq
    have grown := appendSample_grows (self.openGroup candidate.index) sample metricData
      1 (comparisons.map Comparison.relation)
    rw [List.length_map] at grown
    have kept : (self.openGroup candidate.index).subtemplates.map Subtemplate.core =
        self.subtemplates.map Subtemplate.core := by
      simp only [openGroup, List.map_map]
      rfl
    have added : (self.openGroup candidate.index).newSubtemplate sample metricData 0 =
        self.newSubtemplate sample metricData 0 := by
      simp only [newSubtemplate, openGroup, Enrollment.count, List.length_map]
    have counted : (self.openGroup candidate.index).count = self.count := by
      simp only [openGroup, Enrollment.count, List.length_map]
    exact
      { requiredSamples := rfl
        capacity := rfl
        recordLimit := rfl
        cores := by rw [← kept, ← added]; exact grown.cores
        relations := by
          refine (length_synthesizeFirstGroupRelations self.count).trans ?_
          exact grown.relations
        transformCount := by
          refine Eq.trans ?_ (length_synthesizeFirstGroupRelations self.count).symm
          exact grown.transformCount
        matchOrder := by rw [← counted]; exact grown.matchOrder }

/-! ### Study -/

lemma rebuildMatcherGroup_cores :
    self.rebuildMatcherGroup.subtemplates.map Subtemplate.core =
      self.subtemplates.map Subtemplate.core := by
  unfold rebuildMatcherGroup
  dsimp only
  split
  · refine List.ext_getElem? fun index => ?_
    simp only [List.getElem?_map, List.getElem?_mapIdx]
    cases self.subtemplates[index]? with
    | none => rfl
    | some subtemplate =>
      simp only [Option.map_some]
      split <;> rfl
  · rw [List.map_map]
    rfl

/-- Rebuilding the group touches only the group. -/
lemma rebuildMatcherGroup_frame (self : Enrollment) :
    self.rebuildMatcherGroup.relations = self.relations ∧
      self.rebuildMatcherGroup.capacity = self.capacity ∧
      self.rebuildMatcherGroup.recordLimit = self.recordLimit ∧
      self.rebuildMatcherGroup.requiredSamples = self.requiredSamples ∧
      self.rebuildMatcherGroup.transformCount = self.transformCount ∧
      self.rebuildMatcherGroup.matchOrder = self.matchOrder ∧
      self.rebuildMatcherGroup.groupEdges = self.groupEdges := by
  unfold rebuildMatcherGroup
  dsimp only
  split <;> exact ⟨rfl, rfl, rfl, rfl, rfl, rfl, rfl⟩

lemma studySource_cores (self : Enrollment) (selectedIndex : Nat) :
    (self.studySource selectedIndex).subtemplates.map Subtemplate.core =
      self.subtemplates.map Subtemplate.core := by
  refine List.ext_getElem? fun index => ?_
  simp only [studySource, List.getElem?_map, List.getElem?_modify]
  cases self.subtemplates[index]? with
  | none => rfl
  | some subtemplate =>
    simp only [Option.map_some]
    split <;> rfl

lemma studySource_count (self : Enrollment) (selectedIndex : Nat) :
    (self.studySource selectedIndex).count = self.count := by
  simp [studySource, Enrollment.count]

lemma probeIsValid_iff {probe : SubtemplateView} {relations : List Relation} :
    self.probeIsValid probe relations = true ↔
      relations.length = self.count ∧ probe.hasMetricData = true ∧
        probe.metricData.isSome = true ∧ probe.records.length ≤ self.recordLimit ∧
        probe.activeCount ≤ probe.records.length := by
  simp [probeIsValid, and_assoc]

/-- The probe's sub-template: its source lends the group state and the study values. -/
def studiedSubtemplate (self : Enrollment) (probe : SubtemplateView) (metricData : MetricData)
    (source : Subtemplate) : Subtemplate :=
  { Subtemplate.fresh probe.records probe.activeCount probe.quality probe.coverage
      (some metricData) self.count with
    groupState := source.groupState
    relationBase := UInt32.ofNat self.relations.length
    studyState := 1
    studyValueA := source.studyValueA
    studyValueB := source.studyValueB }

lemma appendStudy_ok {probe : SubtemplateView} {selectedIndex appended : Nat}
    {relations : List Relation}
    (h : self.appendStudy probe selectedIndex relations = .ok (other, appended)) :
    ∃ metricData source, probe.metricData = some metricData ∧
      (self.studySource selectedIndex).subtemplates[selectedIndex]? = some source ∧
      self.count ≠ 0 ∧ self.count < self.capacity ∧ selectedIndex < self.count ∧
      self.probeIsValid probe relations = true ∧ appended = self.count ∧
      other = ((self.studySource selectedIndex).appendProbe probe metricData source
        relations).rebuildMatcherGroup := by
  unfold appendStudy at h
  split at h
  · cases h
  · next room =>
    split at h
    · cases h
    · next valid =>
      dsimp only at h
      split at h
      · next source metricData found given =>
        cases h
        push Not at room
        refine ⟨metricData, source, given, found, room.1, room.2.1, room.2.2, ?_, rfl, rfl⟩
        simpa using valid
      · cases h

lemma appendStudy_grows {probe : SubtemplateView} {selectedIndex appended : Nat}
    {relations : List Relation}
    (h : self.appendStudy probe selectedIndex relations = .ok (other, appended)) :
    ∃ metricData source, Grows self other
      (self.studiedSubtemplate probe metricData source) self.count := by
  obtain ⟨metricData, source, -, -, -, -, -, valid, -, rfl⟩ := appendStudy_ok h
  obtain ⟨length, -⟩ := probeIsValid_iff.mp valid
  have counted := studySource_count self selectedIndex
  have frame := rebuildMatcherGroup_frame
    ((self.studySource selectedIndex).appendProbe probe metricData source relations)
  obtain ⟨table, capacity, limit, required, transforms, order, -⟩ := frame
  have kept := studySource_cores self selectedIndex
  refine ⟨metricData, source, ?_⟩
  exact
    { requiredSamples := required
      capacity := capacity
      recordLimit := limit
      cores := by
        rw [rebuildMatcherGroup_cores, ← kept]
        simp only [appendProbe, List.map_append, List.map_cons, List.map_nil, counted]
        rfl
      relations := by
        rw [table, ← length]
        simp [appendProbe, studySource]
      transformCount := by
        rw [transforms, table]
        simp [appendProbe]
      matchOrder := by
        rw [order]
        simp only [appendProbe, counted]
        rfl }

/-- `after` is `before` with at most one sub-template overwritten and lineages renumbered. -/
structure Replaces (before after : Enrollment) (probe : SubtemplateView) : Prop where
  full : before.count = before.capacity
  capacity : after.capacity = before.capacity
  recordLimit : after.recordLimit = before.recordLimit
  count : after.count = before.count
  bases : after.subtemplates.map Subtemplate.relationBase =
    before.subtemplates.map Subtemplate.relationBase
  groups : after.subtemplates.map Subtemplate.groupState =
    before.subtemplates.map Subtemplate.groupState
  lineage : ∀ new ∈ after.subtemplates, new.lineageIndex = before.count - 1 ∨
    ∃ old ∈ before.subtemplates, new.lineageIndex ≤ old.lineageIndex
  content : ∀ new ∈ after.subtemplates,
    (new.records = probe.records ∧ new.activeCount = probe.activeCount ∧
      new.hasMetricData = true) ∨
    ∃ old ∈ before.subtemplates, new.records = old.records ∧
      new.activeCount = old.activeCount ∧ new.hasMetricData = old.hasMetricData
  relations : after.relations.length = before.relations.length
  transformCount : after.transformCount = before.transformCount
  matchOrder : after.matchOrder = before.matchOrder
  groupEdges : after.groupEdges = before.groupEdges
  groupAnchor : after.groupAnchor = before.groupAnchor
  hasGroupAnchor : after.hasGroupAnchor = before.hasGroupAnchor

lemma length_replaceRelation {replacementIndex index : Nat} {relations table table' : List Relation}
    (h : self.replaceRelation replacementIndex relations (some table) index = some table') :
    table'.length = table.length := by
  unfold replaceRelation at h
  split at h
  · next old relation started found =>
    cases started
    split at h
    · cases h
      rfl
    · split at h
      · cases h
      · split at h <;> cases h <;> exact List.length_set
  · cases h

lemma replaceRelation_none (replacementIndex : Nat) (relations : List Relation)
    (indices : List Nat) :
    indices.foldl (self.replaceRelation replacementIndex relations) none = none := by
  induction indices with
  | nil => rfl
  | cons index rest ih => simpa [replaceRelation] using ih

lemma length_foldl_replaceRelation {replacementIndex : Nat} {relations table' : List Relation}
    (indices : List Nat) (table : List Relation)
    (h : indices.foldl (self.replaceRelation replacementIndex relations) (some table) =
      some table') : table'.length = table.length := by
  induction indices generalizing table with
  | nil =>
    cases h
    rfl
  | cons index rest ih =>
    rw [List.foldl_cons] at h
    cases here : self.replaceRelation replacementIndex relations (some table) index with
    | none =>
      rw [here, replaceRelation_none] at h
      cases h
    | some next =>
      rw [here] at h
      exact (ih next h).trans (length_replaceRelation here)

/-- The list of sub-templates after a replacement. -/
def replaced (self : Enrollment) (probe : SubtemplateView) (metricData : MetricData)
    (source : Subtemplate) (selectedIndex replacementIndex : Nat) : List Subtemplate :=
  renumberLineage replacementIndex self.count
    ((self.studySource selectedIndex).subtemplates.modify replacementIndex
      (overwriteWith probe metricData source))

/-- One entry of that list, in terms of the entry it came from. -/
def replacedEntry (self : Enrollment) (probe : SubtemplateView) (metricData : MetricData)
    (source : Subtemplate) (selectedIndex replacementIndex index : Nat) (old : Subtemplate) :
    Subtemplate :=
  let counted := if selectedIndex = index then { old with studyValueA := old.studyValueA + 1 }
    else old
  if replacementIndex = index then
    { overwriteWith probe metricData source counted with lineageIndex := self.count - 1 }
  else { counted with lineageIndex := old.lineageIndex - 1 }

lemma lower_lineage (subtemplate : Subtemplate) :
    (if subtemplate.lineageIndex > 0 then
      { subtemplate with lineageIndex := subtemplate.lineageIndex - 1 } else subtemplate) =
      { subtemplate with lineageIndex := subtemplate.lineageIndex - 1 } := by
  split
  · rfl
  · next lowest =>
    have zero : subtemplate.lineageIndex = 0 := by omega
    simp only [zero, Nat.zero_sub]
    rw [← zero]

section

variable {probe : SubtemplateView} {metricData : MetricData} {source : Subtemplate}
  {selectedIndex replacementIndex index : Nat}

lemma getElem?_replaced :
    (self.replaced probe metricData source selectedIndex replacementIndex)[index]? =
      self.subtemplates[index]?.map
        (self.replacedEntry probe metricData source selectedIndex replacementIndex index) := by
  rw [replaced, renumberLineage, List.getElem?_mapIdx, List.getElem?_modify, studySource,
    List.getElem?_modify]
  cases self.subtemplates[index]? with
  | none => rfl
  | some old =>
    simp only [Option.map_eq_map, Option.map_some, Option.some.injEq, replacedEntry,
      lower_lineage]
    by_cases here : replacementIndex = index
    · simp only [if_pos here, if_pos here.symm]
    · have other : ¬index = replacementIndex := fun same => here same.symm
      simp only [if_neg here, if_neg other]
      split <;> rfl

variable (old : Subtemplate)

/-- The slot keeps its relation base and its group state. -/
lemma replacedEntry_frame :
    (self.replacedEntry probe metricData source selectedIndex replacementIndex index
        old).relationBase = old.relationBase ∧
      (self.replacedEntry probe metricData source selectedIndex replacementIndex index
        old).groupState = old.groupState := by
  unfold replacedEntry
  dsimp only
  split <;> split <;> exact ⟨rfl, rfl⟩

lemma replacedEntry_lineage :
    (self.replacedEntry probe metricData source selectedIndex replacementIndex index
        old).lineageIndex = self.count - 1 ∨
      (self.replacedEntry probe metricData source selectedIndex replacementIndex index
        old).lineageIndex ≤ old.lineageIndex := by
  unfold replacedEntry
  dsimp only
  split
  · exact .inl rfl
  · exact .inr (Nat.sub_le _ _)

lemma replacedEntry_content {new : Subtemplate}
    (h : new = self.replacedEntry probe metricData source selectedIndex replacementIndex index
      old) :
    (new.records = probe.records ∧ new.activeCount = probe.activeCount ∧
      new.hasMetricData = true) ∨
      (new.records = old.records ∧ new.activeCount = old.activeCount ∧
        new.hasMetricData = old.hasMetricData) := by
  subst h
  unfold replacedEntry
  dsimp only
  split
  · exact .inl ⟨rfl, rfl, rfl⟩
  · split <;> exact .inr ⟨rfl, rfl, rfl⟩

end

lemma replaceStudy_replaces {probe : SubtemplateView} {selectedIndex replacementIndex : Nat}
    {relations : List Relation}
    (h : self.replaceStudy probe selectedIndex replacementIndex relations = .ok other) :
    Replaces self other probe ∧ self.probeIsValid probe relations = true := by
  unfold replaceStudy at h
  split at h
  · cases h
  · next admitted =>
    push Not at admitted
    obtain ⟨full, -, -, valid⟩ := admitted
    dsimp only at h
    split at h
    · next source metricData found given =>
      split at h
      · cases h
      · next table replaced =>
        cases h
        refine ⟨?_, by simpa using valid⟩
        have entry : ∀ new ∈ self.replaced probe metricData source selectedIndex replacementIndex,
            ∃ index, ∃ old ∈ self.subtemplates, new = self.replacedEntry probe metricData source
              selectedIndex replacementIndex index old := by
          intro new listed
          obtain ⟨index, at_⟩ := List.mem_iff_getElem?.mp listed
          rw [getElem?_replaced] at at_
          obtain ⟨old, found, here⟩ := Option.map_eq_some_iff.mp at_
          exact ⟨index, old, List.mem_of_getElem? found, here.symm⟩
        have projected : ∀ {β : Type} (field : Subtemplate → β), (∀ index old, field
            (self.replacedEntry probe metricData source selectedIndex replacementIndex index old) =
              field old) →
            (self.replaced probe metricData source selectedIndex replacementIndex).map field =
              self.subtemplates.map field := by
          intro β field kept
          refine List.ext_getElem? fun index => ?_
          rw [List.getElem?_map, List.getElem?_map, getElem?_replaced, Option.map_map]
          exact congrArg (fun f => Option.map f self.subtemplates[index]?)
            (funext fun old => kept index old)
        exact
          { full
            capacity := rfl
            recordLimit := rfl
            count := by
              simp [Enrollment.count, renumberLineage, studySource]
            bases := projected _ fun index old => (replacedEntry_frame old).1
            groups := projected _ fun index old => (replacedEntry_frame old).2
            lineage := by
              intro new listed
              obtain ⟨index, old, here, rfl⟩ := entry new listed
              exact (replacedEntry_lineage old).imp_right fun lower => ⟨old, here, lower⟩
            content := by
              intro new listed
              obtain ⟨index, old, here, same⟩ := entry new listed
              exact (replacedEntry_content old same).imp_right fun kept => ⟨old, here, kept⟩
            relations := length_foldl_replaceRelation _ _ replaced
            transformCount := rfl
            matchOrder := rfl
            groupEdges := rfl
            groupAnchor := rfl
            hasGroupAnchor := rfl }
    · cases h

/-! ### Dropping -/

/-- The state after `last` is dropped. -/
def dropped (self : Enrollment) (earlier : List Subtemplate) (last : Subtemplate) : Enrollment :=
  { self with
    relations := self.resizeRelations last.relationBase.toNat
    groupEdges := dropEdges last.relationBase.toNat self.groupEdges
    subtemplates := earlier
    matchOrder := self.dropOrder earlier.length
    transformCount := (self.resizeRelations last.relationBase.toNat).length
    groupAnchor := if earlier.length = 0 then 0 else self.groupAnchor
    hasGroupAnchor := if earlier.length = 0 then false else self.hasGroupAnchor }

lemma dropLast_concat {earlier : List Subtemplate} {last : Subtemplate}
    (split : self.subtemplates = earlier ++ [last]) :
    self.dropLast = .ok (self.dropped earlier last) := by
  have found : self.subtemplates.getLast? = some last := by rw [split, List.getLast?_concat]
  have counted : self.count = earlier.length + 1 := by
    rw [Enrollment.count, split, List.length_append, List.length_singleton]
  have shorter : self.subtemplates.dropLast = earlier := by rw [split, List.dropLast_concat]
  simp only [Enrollment.dropLast, dropped, found, shorter, counted, Nat.add_sub_cancel,
    beq_iff_eq, Nat.add_eq_right]

lemma dropLast_ok (h : self.dropLast = .ok other) :
    ∃ earlier last, self.subtemplates = earlier ++ [last] ∧ other = self.dropped earlier last := by
  cases found : self.subtemplates.getLast? with
  | none =>
    simp only [Enrollment.dropLast, found] at h
    cases h
  | some last =>
    obtain ⟨earlier, split⟩ := List.getLast?_eq_some_iff.mp found
    rw [dropLast_concat split] at h
    cases h
    exact ⟨earlier, last, split, rfl⟩

end Enrollment

end GoodixSpi.Chicago
