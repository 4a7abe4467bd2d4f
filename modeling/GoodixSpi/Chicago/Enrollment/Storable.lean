import GoodixSpi.Chicago.Enrollment.CapacityOutcome
import GoodixSpi.Chicago.Packed.Decoded

/-! Galleries that can be stored and studied again and again: packed, loaded, grown while there is
room and overwritten once there is none. -/

namespace GoodixSpi.Chicago

/-- What a probe brings along for study. -/
structure SubtemplateView.Studyable (probe : SubtemplateView) : Prop where
  flagged : probe.hasMetricData = true
  metric : probe.metricData.isSome = true
  records : probe.records.length ≤ subtemplateRecordLimit
  active : probe.activeCount ≤ probe.records.length
  prepared : ∀ record ∈ probe.records, record.Prepared
  classified : ∀ index record, probe.records[index]? = some record →
    record.foregroundClass = if index < probe.activeCount then 0 else 1

/-- A sub-template with the records of the probe. -/
lemma SubtemplateView.Studyable.decoded {probe : SubtemplateView} (studyable : probe.Studyable)
    {subtemplate : Subtemplate} (records : subtemplate.records = probe.records)
    (active : subtemplate.activeCount = probe.activeCount) : subtemplate.Decoded := by
  constructor
  · rw [records]
    exact studyable.prepared
  · intro index record found
    rw [records] at found
    rw [active]
    exact studyable.classified index record found

/-- Classes and coordinates depend on the records only. -/
lemma Subtemplate.Decoded.congr {a b : Subtemplate} (decoded : b.Decoded)
    (records : a.records = b.records) (active : a.activeCount = b.activeCount) : a.Decoded := by
  constructor
  · rw [records]
    exact decoded.prepared
  · intro index record found
    rw [records] at found
    rw [active]
    exact decoded.classified index record found

/-- The group flag and the study count do not show in the content. -/
lemma Subtemplate.content_of_core {a b : Subtemplate} (same : a.core = b.core) :
    a.records = b.records ∧ a.activeCount = b.activeCount ∧ a.hasMetricData = b.hasMetricData := by
  have records : a.core.records = b.core.records := congrArg Subtemplate.records same
  have active : a.core.activeCount = b.core.activeCount := congrArg Subtemplate.activeCount same
  have metric : a.core.hasMetricData = b.core.hasMetricData :=
    congrArg Subtemplate.hasMetricData same
  exact ⟨records, active, metric⟩

namespace Enrollment

/-- A gallery that study can work on, now and after it was stored. -/
structure Storable (e : Enrollment) : Prop where
  packable : e.Packable
  blocks : e.BlocksFit
  recordLimit : e.recordLimit = subtemplateRecordLimit
  decoded : ∀ subtemplate ∈ e.subtemplates, subtemplate.Decoded

variable {e after : Enrollment} {probe : SubtemplateView}

lemma Packable.relations_small (packable : e.Packable) : e.relations.length < 2 ^ 16 := by
  have few := packable.relations
  have small := packable.count.trans packable.capacity
  have bound : e.count * (e.count + 1) ≤ 50 * 51 := Nat.mul_le_mul small (Nat.succ_le_succ small)
  omega

lemma Storable.slots (storable : e.Storable) : e.SlotsExist :=
  (slotsExist_iff (by have few := storable.packable.relations_small; omega)).mpr storable.blocks

/-- The blocks of the triangular layout fill the table. -/
lemma blocksFit_of_layout (layout : Layout e) : e.BlocksFit := by
  intro index positive inside
  have next : triangleBase (index + 1) ≤ triangleBase e.count := triangleBase_mono inside
  rw [triangleBase_succ positive] at next
  rw [layout.relationBase_toNat inside, layout.relations]
  exact next

lemma Storable.of_layout (layout : Layout e)
    (metric : ∀ subtemplate ∈ e.subtemplates, subtemplate.hasMetricData = true)
    (decoded : ∀ subtemplate ∈ e.subtemplates, subtemplate.Decoded) : e.Storable where
  packable := .of_layout layout metric
  blocks := blocksFit_of_layout layout
  recordLimit := layout.recordLimit
  decoded := decoded

/-- A stored gallery is as good as the one that was packed. -/
lemma Storable.reload (storable : e.Storable) : e.reload.Storable where
  packable := reload_packable storable.packable
  blocks := by
    intro index positive inside
    rw [reload_count] at inside
    have keeps := reload_keepsSelected e
    rw [keeps.base, keeps.length]
    exact storable.blocks index positive inside
  recordLimit := storable.recordLimit
  decoded := by
    intro subtemplate listed
    obtain ⟨original, here, rfl⟩ := List.mem_map.mp listed
    exact (storable.decoded original here).reload

/-! ### Study with room -/

lemma probeIsValid_of_studyable (storable : e.Storable) (studyable : probe.Studyable)
    {relations : List Relation} (counted : relations.length = e.count) :
    e.probeIsValid probe relations = true := by
  rw [probeIsValid_iff, storable.recordLimit]
  exact ⟨counted, studyable.flagged, studyable.metric, studyable.records, studyable.active⟩

lemma appendStudy_succeeds (storable : e.Storable) (studyable : probe.Studyable)
    {selectedIndex : Nat} {relations : List Relation} (selected : selectedIndex < e.count)
    (room : e.count < e.capacity) (counted : relations.length = e.count) :
    ∃ studied, e.appendStudy probe selectedIndex relations = .ok (studied, e.count) := by
  have valid := probeIsValid_of_studyable storable studyable counted
  obtain ⟨metricData, given⟩ := Option.isSome_iff_exists.mp studyable.metric
  have inside : selectedIndex < (e.studySource selectedIndex).subtemplates.length := by
    rw [← Enrollment.count, studySource_count]
    exact selected
  unfold appendStudy
  rw [if_neg (by omega), if_neg (by simp [valid])]
  dsimp only
  rw [List.getElem?_eq_getElem inside, given]
  exact ⟨_, rfl⟩

/-- The block of the new sub-template is the end of the table. -/
lemma Storable.blocks_grow (storable : e.Storable) {added : Subtemplate}
    (grows : Grows e after added e.count)
    (base : added.relationBase = UInt32.ofNat e.relations.length) : after.BlocksFit := by
  have small := storable.packable.relations_small
  have bases : after.subtemplates.map Subtemplate.relationBase =
      e.subtemplates.map Subtemplate.relationBase ++ [added.relationBase] := by
    have cores := congrArg (List.map Subtemplate.relationBase) grows.cores
    rw [List.map_append, List.map_map, List.map_map] at cores
    exact cores
  intro index positive inside
  have at_ := congrArg (·[index]?) bases
  simp only [List.getElem?_map] at at_
  rw [grows.count] at inside
  rw [Enrollment.relationBase, at_, grows.relations]
  by_cases old : index < e.count
  · rw [List.getElem?_append_left (by rw [List.length_map]; exact old), List.getElem?_map]
    have fits := storable.blocks index positive old
    exact fits.trans (Nat.le_add_right _ _)
  · have newest : index = (e.subtemplates.map Subtemplate.relationBase).length := by
      rw [List.length_map]
      exact Nat.le_antisymm (Nat.le_of_lt_succ inside) (Nat.le_of_not_lt old)
    have counted : index = e.count := by
      rw [newest, List.length_map]
      rfl
    rw [newest, List.getElem?_concat_length, Option.getD_some, base, UInt32.toNat_ofNat',
      Nat.mod_eq_of_lt (by omega), ← newest, counted]

lemma Storable.append (storable : e.Storable) (studyable : probe.Studyable)
    {selectedIndex appended : Nat} {relations : List Relation}
    (ok : e.appendStudy probe selectedIndex relations = .ok (after, appended)) :
    after.Storable ∧ after.count = e.count + 1 ∧ after.capacity = e.capacity := by
  obtain ⟨metricData, source, grows⟩ := appendStudy_grows ok
  obtain ⟨-, -, -, -, -, room, -⟩ := appendStudy_ok ok
  have limited := storable.recordLimit
  refine ⟨⟨?_, storable.blocks_grow grows rfl, grows.recordLimit.trans limited, ?_⟩, grows.count,
    grows.capacity⟩
  · exact storable.packable.grow grows room
      ⟨rfl, by rw [limited]; exact studyable.records, studyable.active, room⟩
  · refine grows.forall_core (fun a b same old => ?_) storable.decoded
      (studyable.decoded rfl rfl)
    obtain ⟨records, active, -⟩ := Subtemplate.content_of_core same
    exact old.congr records active

/-! ### Study without room -/

open CapacityGraph

lemma Storable.of_sameContent (storable : e.Storable) {g g' : CapacityGraph}
    (start : g.enrollment = e) (same : SameContent g g') : g'.enrollment.Storable := by
  subst start
  have packable := storable.packable
  have core : ∀ new ∈ g'.enrollment.subtemplates, ∃ old ∈ g.enrollment.subtemplates,
      new.core = old.core := by
    intro new listed
    have here : new.core ∈ g.enrollment.subtemplates.map Subtemplate.core := by
      rw [← same.cores]
      exact List.mem_map_of_mem listed
    obtain ⟨old, found, equal⟩ := List.mem_map.mp here
    exact ⟨old, found, equal.symm⟩
  refine ⟨⟨?_, ?_, ?_, ?_, ?_, ?_⟩, ?_, same.recordLimit.trans storable.recordLimit, ?_⟩
  · rw [same.slots.count, same.slots.capacity]
    exact packable.count
  · exact same.slots.capacity.trans_le packable.capacity
  · exact same.recordLimit.trans_le packable.recordLimit
  · intro new listed
    obtain ⟨old, found, equal⟩ := core new listed
    have bounds := packable.subtemplates old found
    have kept := Subtemplate.Bounded.of_core
      ⟨bounds.records, bounds.active, bounds.lineage⟩ equal
    obtain ⟨-, -, metric⟩ := Subtemplate.content_of_core equal
    rw [same.slots.capacity, same.recordLimit]
    exact ⟨metric.trans bounds.metric, kept.records, kept.active, kept.lineage⟩
  · rw [same.slots.length, same.slots.count]
    exact packable.relations
  · have order : g'.enrollment.orderAt = g.enrollment.orderAt := by
      funext schedule
      rw [orderAt, orderAt, same.matchOrder]
    rw [order, same.slots.count, same.slots.capacity]
    exact packable.scheduled
  · intro index positive inside
    rw [same.slots.base, same.slots.length]
    exact storable.blocks index positive (same.slots.count ▸ inside)
  · intro new listed
    obtain ⟨old, found, equal⟩ := core new listed
    obtain ⟨records, active, -⟩ := Subtemplate.content_of_core equal
    exact (storable.decoded old found).congr records active

/-- A replaced gallery has the probe in place of one of its sub-templates. -/
lemma Storable.replace (storable : e.Storable) (studyable : probe.Studyable)
    {selectedIndex replacementIndex : Nat} {relations : List Relation}
    (ok : e.replaceStudy probe selectedIndex replacementIndex relations = .ok after) :
    after.Storable ∧ after.count = e.count ∧ after.capacity = e.capacity := by
  obtain ⟨replaces, -⟩ := replaceStudy_replaces ok
  have packable := storable.packable
  have order : after.orderAt = e.orderAt := by
    funext schedule
    rw [orderAt, orderAt, replaces.matchOrder]
  have bases : ∀ index, after.relationBase index = e.relationBase index := by
    intro index
    have here := congrArg (·[index]?) replaces.bases
    simp only [List.getElem?_map] at here
    rw [relationBase, relationBase, here]
  refine ⟨⟨⟨?_, ?_, ?_, ?_, ?_, ?_⟩, ?_, replaces.recordLimit.trans storable.recordLimit, ?_⟩,
    replaces.count, replaces.capacity⟩
  · rw [replaces.count, replaces.capacity]
    exact packable.count
  · exact replaces.capacity.trans_le packable.capacity
  · exact replaces.recordLimit.trans_le packable.recordLimit
  · intro new listed
    rw [replaces.capacity, replaces.recordLimit]
    have lineage : new.lineageIndex < e.capacity := by
      rcases replaces.lineage new listed with newest | ⟨old, found, lower⟩
      · have some_ : 0 < after.count := List.length_pos_of_mem listed
        have full := replaces.full
        have counted := replaces.count
        omega
      · exact lower.trans_lt (packable.subtemplates old found).lineage
    rcases replaces.content new listed with ⟨records, active, metric⟩ |
      ⟨old, found, records, active, metric⟩
    · refine ⟨metric, ?_, ?_, lineage⟩
      · rw [records, storable.recordLimit]
        exact studyable.records
      · rw [records, active]
        exact studyable.active
    · have bounds := packable.subtemplates old found
      refine ⟨metric.trans bounds.metric, ?_, ?_, lineage⟩
      · rw [records]
        exact bounds.records
      · rw [records, active]
        exact bounds.active
  · rw [replaces.relations, replaces.count]
    exact packable.relations
  · rw [order, replaces.count, replaces.capacity]
    exact packable.scheduled
  · intro index positive inside
    rw [bases, replaces.relations]
    exact storable.blocks index positive (replaces.count ▸ inside)
  · intro new listed
    rcases replaces.content new listed with ⟨records, active, -⟩ | ⟨old, found, records, active, -⟩
    · exact studyable.decoded records active
    · exact (storable.decoded old found).congr records active

lemma replaceStudy_succeeds (storable : e.Storable) (studyable : probe.Studyable)
    (full : e.count = e.capacity) {selectedIndex replacementIndex : Nat} {relations : List Relation}
    (selected : selectedIndex < e.count) (replaced : replacementIndex < e.count)
    (counted : relations.length = e.count) :
    ∃ studied, e.replaceStudy probe selectedIndex replacementIndex relations = .ok studied := by
  have valid := probeIsValid_of_studyable storable studyable counted
  obtain ⟨metricData, given⟩ := Option.isSome_iff_exists.mp studyable.metric
  have inside : selectedIndex < (e.studySource selectedIndex).subtemplates.length := by
    rw [← Enrollment.count, studySource_count]
    exact selected
  have table := foldl_replaceRelation_isSome storable.slots replaced counted (List.range e.count)
    (fun _ listed => List.mem_range.mp listed) e.relations
  obtain ⟨written, found⟩ := Option.isSome_iff_exists.mp table
  unfold replaceStudy
  rw [if_neg (by simp [valid, full] at selected replaced ⊢; omega)]
  dsimp only
  rw [List.getElem?_eq_getElem inside, given]
  dsimp only
  rw [found]
  exact ⟨_, rfl⟩

end Enrollment

end GoodixSpi.Chicago
