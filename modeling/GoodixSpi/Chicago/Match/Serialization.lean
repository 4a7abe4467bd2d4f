import GoodixSpi.Chicago.Match.Visible
import GoodixSpi.Chicago.Packed.Lifecycle

/-! A stored print matches like the enrollment it was packed from: the packed form keeps
all that the matcher sees. -/

namespace GoodixSpi.Chicago

/-- Foreground records come first, background records after them. -/
def Subtemplate.Classified (subtemplate : Subtemplate) : Prop :=
  ∀ index record, subtemplate.records[index]? = some record →
    record.foregroundClass = if index < subtemplate.activeCount then 0 else 1

lemma keptByte_of_compared {index : Nat} (compared : comparedByte index = true) :
    keptByte index = true :=
  compared

lemma getElem_descriptor (record : FeatureRecord) {index : Nat} (inside : index < 48) :
    record.descriptor[index] = descriptorByte record index := by
  simp [descriptorByte, inside]

/-- The packed form keeps what is visible of a record, up to its class. -/
lemma visible_reloadRecord {record : FeatureRecord} (prepared : record.Prepared)
    {foreground : UInt16} (same : foreground &&& 3 = record.foregroundClass) :
    FeatureRecord.visible { reloadRecord record with foreground := foreground } =
      record.visible := by
  have bytes : ∀ index (inside : index < 48), comparedByte index = true →
      (reloadRecord record).descriptor[index] = record.descriptor[index] := by
    intro index inside compared
    rw [getElem_descriptor, getElem_descriptor,
      descriptorByte_reload record (keptByte_of_compared compared)]
  have descriptor : (Vector.ofFn fun index : Fin 48 =>
      if comparedByte index then (reloadRecord record).descriptor[index] else 0) =
      Vector.ofFn fun index : Fin 48 =>
        if comparedByte index then record.descriptor[index] else 0 := by
    refine congrArg Vector.ofFn (funext fun index => ?_)
    by_cases compared : comparedByte index = true
    · rw [if_pos compared, if_pos compared]
      exact bytes index index.isLt compared
    · rw [if_neg compared, if_neg compared]
  simp only [FeatureRecord.visible, FeatureRecord.foregroundClass, reload_refinedX prepared,
    reload_refinedY prepared, reload_orientation prepared, descriptor]
  rw [same]
  rfl

lemma visible_reloadRecords {subtemplate : Subtemplate}
    (prepared : ∀ record ∈ subtemplate.records, record.Prepared)
    (classified : subtemplate.Classified) :
    (reloadSubtemplate subtemplate).records.map FeatureRecord.visible =
      subtemplate.records.map FeatureRecord.visible := by
  refine List.ext_getElem? fun index => ?_
  simp only [reloadSubtemplate, classifyForeground, List.getElem?_map, List.getElem?_mapIdx]
  cases found : subtemplate.records[index]? with
  | none => rfl
  | some record =>
    have here := prepared record (List.mem_of_getElem? found)
    have kind := classified index record found
    simp only [Option.map_some, Option.some.injEq]
    by_cases active : subtemplate.activeCount ≤ index
    · rw [if_pos active]
      rw [if_neg (by omega)] at kind
      exact visible_reloadRecord here kind.symm
    · rw [if_neg active]
      rw [if_pos (by omega)] at kind
      exact visible_reloadRecord here kind.symm

lemma visible_reloadSubtemplate {subtemplate : Subtemplate}
    (metric : subtemplate.hasMetricData = true)
    (prepared : ∀ record ∈ subtemplate.records, record.Prepared)
    (classified : subtemplate.Classified) :
    (reloadSubtemplate subtemplate).view.visible = subtemplate.view.visible := by
  have records := visible_reloadRecords prepared classified
  simp only [SubtemplateView.visible, Subtemplate.view, records]
  simp only [reloadSubtemplate, metric, if_true, Option.map_some, MetricData.visible]

/-- The match order survives, and every sub-template on it looks the same. -/
lemma visible_reload_schedule {e : Enrollment} (packable : e.Packable)
    (prepared : ∀ subtemplate ∈ e.subtemplates, ∀ record ∈ subtemplate.records,
      record.Prepared)
    (classified : ∀ subtemplate ∈ e.subtemplates, subtemplate.Classified) :
    e.reload.schedule.map visibleEntry = e.schedule.map visibleEntry := by
  have count := reload_count e
  simp only [Enrollment.schedule, count, List.map_filterMap]
  refine List.filterMap_congr fun schedule listed => ?_
  have used : schedule < e.count := List.mem_range.mp listed
  have inside : schedule < enrollmentCapacity :=
    used.trans_le (packable.count.trans packable.capacity)
  have order := reload_orderAt e (used.trans_le packable.count)
  rw [Enrollment.orderAt_eq inside, Enrollment.orderAt_eq inside] at order
  have index : e.reload.getMatchOrderIndex schedule = e.getMatchOrderIndex schedule := by
    simp only [Enrollment.getMatchOrderIndex, count, order]
  simp only [Enrollment.scheduledSubtemplate, index]
  cases e.getMatchOrderIndex schedule with
  | none => rfl
  | some index =>
    have stored : e.reload.subtemplates[index]? = e.subtemplates[index]?.map reloadSubtemplate :=
      List.getElem?_map
    rw [Option.bind_some, Option.bind_some, stored]
    cases found : e.subtemplates[index]? with
    | none => rfl
    | some subtemplate =>
      have here := List.mem_of_getElem? found
      have same := visible_reloadSubtemplate (packable.subtemplates subtemplate here).metric
        (prepared subtemplate here) (classified subtemplate here)
      simp only [Option.map_some, visibleEntry, same]

/-- Packed and unpacked again, an enrollment gives every probe the result it gave before.
Each enrollment that the operations make is packable once its sub-templates have metric
data, and so is each unpacked one. -/
theorem match_blind_to_serialization {e : Enrollment} (packable : e.Packable)
    (prepared : ∀ subtemplate ∈ e.subtemplates, ∀ record ∈ subtemplate.records,
      record.Prepared)
    (classified : ∀ subtemplate ∈ e.subtemplates, subtemplate.Classified) :
    ∃ bytes loaded, e.pack = .ok bytes ∧ unpack bytes = .ok loaded ∧
      ∀ probe selectorThreshold, loaded.matchTemplateType24 probe selectorThreshold =
        e.matchTemplateType24 probe selectorThreshold := by
  obtain ⟨packed, unpacked⟩ := packable.pack_unpack
  refine ⟨_, _, packed, unpacked, fun probe selectorThreshold => ?_⟩
  exact matchTemplateType24_congr probe selectorThreshold (reload_count e)
    (visible_reload_schedule packable prepared classified)

theorem match_blind_to_serialization_grid :
    ∃ bytes loaded, gridGallery.pack = .ok bytes ∧ unpack bytes = .ok loaded ∧
      loaded.matchTemplateType24 gridProbe 200 = gridGallery.matchTemplateType24 gridProbe 200 := by
  have classified : ∀ subtemplate ∈ gridGallery.subtemplates, subtemplate.Classified := by
    intro subtemplate listed index record found
    rw [List.mem_singleton.mp listed] at found ⊢
    obtain ⟨slot, inside, rfl⟩ := List.mem_map.mp (List.mem_of_getElem? found)
    have active : index < 21 := by
      simpa [Subtemplate.fresh, gridSample] using (List.getElem?_eq_some_iff.mp found).1
    show _ = if index < 21 then (0 : UInt16) else 1
    rw [if_pos active]
    exact UInt16.zero_and
  obtain ⟨bytes, loaded, packed, unpacked, same⟩ :=
    match_blind_to_serialization gridGallery_packable gridGallery_prepared classified
  exact ⟨bytes, loaded, packed, unpacked, same gridProbe 200⟩

end GoodixSpi.Chicago
