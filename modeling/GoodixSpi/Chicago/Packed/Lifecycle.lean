import GoodixSpi.Chicago.Packed.Soundness
import GoodixSpi.Chicago.Enrollment.Group

/-! Stored prints over their life: what enrollment makes can be packed and loaded again
without a change, and study leaves a loaded print loadable. -/

namespace GoodixSpi.Chicago

namespace Enrollment

variable {e after : Enrollment}

lemma Packable.of_layout (layout : Layout e)
    (metric : ∀ subtemplate ∈ e.subtemplates, subtemplate.hasMetricData = true) : e.Packable where
  count := layout.count.trans_eq layout.capacity.symm
  capacity := layout.capacity.le
  recordLimit := layout.recordLimit.le
  subtemplates subtemplate listed := by
    have bounded := layout.subtemplates subtemplate listed
    rw [layout.capacity, layout.recordLimit]
    exact ⟨metric subtemplate listed, bounded.records, bounded.active, bounded.lineage⟩
  relations := layout.relations.trans_le (triangleBase_le e.count)
  scheduled := by
    rw [layout.capacity]
    exact layout.scheduled

lemma Packable.pack_unpack (h : e.Packable) :
    e.pack = .ok e.packedTemplate ∧ unpack e.packedTemplate = .ok e.reload :=
  ⟨pack_eq_ok fun subtemplate listed => (h.subtemplates subtemplate listed).metric,
    unpack_packedTemplate h⟩

/-- One more sub-template, with a relation to each of the others. -/
lemma Packable.grow (h : e.Packable) {added : Subtemplate} (grows : Grows e after added e.count)
    (room : e.count < e.capacity) (packable : added.Packable e.capacity e.recordLimit) :
    after.Packable where
  count := by
    rw [grows.count, grows.capacity]
    exact room
  capacity := grows.capacity.trans_le h.capacity
  recordLimit := grows.recordLimit.trans_le h.recordLimit
  subtemplates := by
    rw [grows.capacity, grows.recordLimit]
    refine grows.forall_core (fun a b same old => ?_) h.subtemplates packable
    have bounded : b.Bounded e.capacity e.recordLimit := ⟨old.records, old.active, old.lineage⟩
    have kept := bounded.of_core same
    have metric := congrArg Subtemplate.hasMetricData same
    simp only [Subtemplate.core_hasMetricData] at metric
    exact ⟨metric.trans old.metric, kept.records, kept.active, kept.lineage⟩
  relations := by
    have few := h.relations
    have next : (e.count + 1) * (e.count + 1 + 1) = e.count * (e.count + 1) + 2 * (e.count + 1) := by
      ring
    rw [grows.relations, grows.count, next]
    omega
  scheduled := by
    rw [grows.count, grows.capacity]
    exact h.scheduled.append (room.trans_le h.capacity) grows.matchOrder

/-- The match order visits every sub-template once, whatever the capacity. -/
structure Ordered (e : Enrollment) : Prop where
  capacity : e.capacity ≤ enrollmentCapacity
  count : e.count ≤ enrollmentCapacity
  scheduled : Scheduled e.orderAt e.count e.capacity

lemma Packable.ordered (h : e.Packable) : e.Ordered :=
  ⟨h.capacity, h.count.trans h.capacity, h.scheduled⟩

lemma Ordered.grow (h : e.Ordered) {added : Subtemplate} {block : Nat}
    (grows : Grows e after added block) (room : e.count < e.capacity) : after.Ordered where
  capacity := grows.capacity.trans_le h.capacity
  count := by
    rw [grows.count]
    exact room.trans_le h.capacity
  scheduled := by
    rw [grows.count, grows.capacity]
    exact h.scheduled.append (room.trans_le h.capacity) grows.matchOrder

lemma Ordered.step (h : e.Ordered) {operation : Operation}
    (succeeds : e.step operation = some after) : after.Ordered := by
  cases operation with
  | insertFirst sample =>
    obtain ⟨result, ok⟩ := ok_of_toOption_fst succeeds
    obtain ⟨empty, -, -, same⟩ := insertFirst_ok ok
    have counted : after.count = 0 + 1 := by
      rw [same, Enrollment.count, List.length_append, List.length_singleton]
      exact congrArg (· + 1) empty
    have capacity : after.capacity = e.capacity := by rw [same]
    have order : after.matchOrder = e.setMatchOrder 0 0 := by rw [same]
    have start := h.scheduled
    rw [empty] at start
    refine ⟨capacity.trans_le h.capacity, counted.trans_le (by decide), ?_⟩
    rw [counted, capacity]
    exact start.append (by decide) order
  | insertNext sample =>
    obtain ⟨result, ok⟩ := ok_of_toOption_fst succeeds
    obtain ⟨metricData, -, -, room, -, -, -, rfl⟩ := insertNext_ok ok
    exact h.grow (insertCompared_outcome e sample metricData
      (e.subtemplates.map (compare sample metricData))).grows room
  | dropLast =>
    obtain ⟨earlier, last, split, rfl⟩ := dropLast_ok (ok_of_toOption succeeds)
    have counted : e.count = earlier.length + 1 := by
      rw [Enrollment.count, split, List.length_append, List.length_singleton]
    have few := h.count
    have scheduled := h.scheduled
    rw [counted] at scheduled few
    exact ⟨h.capacity, Nat.le_of_succ_le few,
      scheduled_dropOrder scheduled h.capacity few rfl⟩
  | appendStudy probe selectedIndex relations =>
    obtain ⟨appended, ok⟩ := ok_of_toOption_fst succeeds
    obtain ⟨-, -, -, -, -, room, -⟩ := appendStudy_ok ok
    obtain ⟨metricData, source, grows⟩ := appendStudy_grows ok
    exact h.grow grows room
  | replaceStudy probe selectedIndex replacementIndex relations =>
    obtain ⟨replaces, -⟩ := replaceStudy_replaces (ok_of_toOption succeeds)
    have order : after.orderAt = e.orderAt := by
      funext schedule
      rw [orderAt, orderAt, replaces.matchOrder]
    refine ⟨replaces.capacity.trans_le h.capacity, replaces.count.trans_le h.count, ?_⟩
    rw [order, replaces.count, replaces.capacity]
    exact h.scheduled

end Enrollment

/-- An enrollment that operations make out of a new one or of an unpacked one. -/
def Obtainable (e : Enrollment) : Prop :=
  ∃ origin, (origin = Enrollment.new ∨ ∃ data, unpack data = .ok origin) ∧
    Reachability.Reaches Enrollment.step (fun _ _ => True) origin e

lemma Obtainable.ordered {e : Enrollment} (h : Obtainable e) : e.Ordered := by
  obtain ⟨origin, source, run⟩ := h
  have initially : origin.Ordered := by
    rcases source with rfl | ⟨data, accepted⟩
    · exact ⟨Nat.le_refl _, Nat.zero_le _, Layout.new.scheduled⟩
    · exact (accepted_of_unpack accepted).packable.ordered
  exact run.invariant Enrollment.Ordered initially fun _ _ _ ordered _ succeeds =>
    ordered.step succeeds

lemma gridGallery_packable : gridGallery.Packable := by
  refine .of_layout (Layout.step Layout.new step_gridGallery) ?_
  decide

lemma gridGallery_prepared : ∀ subtemplate ∈ gridGallery.subtemplates,
    ∀ record ∈ subtemplate.records, record.Prepared := by
  intro subtemplate listed record here
  rw [List.mem_singleton.mp listed] at here
  obtain ⟨index, inside, rfl⟩ := List.mem_map.mp here
  exact gridRecord_prepared (List.mem_range.mp inside)

/-- A packed enrollment unpacks, and packing the result gives the same bytes: the forest
and the bridges chosen on the reloaded relations are the ones chosen before. -/
theorem pack_unpack_idempotent {e : Enrollment} (h : Reachable (fun _ _ => True) e)
    (metric : ∀ subtemplate ∈ e.subtemplates, subtemplate.hasMetricData = true)
    (prepared : ∀ subtemplate ∈ e.subtemplates, ∀ record ∈ subtemplate.records,
      record.Prepared) :
    ∃ bytes reloaded, e.pack = .ok bytes ∧ unpack bytes = .ok reloaded ∧
      reloaded.pack = .ok bytes ∧ reloaded.forest = e.forest ∧
      reloaded.reconnected = e.reconnected ∧
      reloaded.buildSerializedRelationMask = e.buildSerializedRelationMask := by
  have layout := layout_of_reachable h
  have packable := Enrollment.Packable.of_layout layout metric
  have marked : ∀ schedule, e.capacity ≤ schedule → e.orderAt schedule = maxUInt32 := by
    intro schedule outside
    rw [layout.capacity] at outside
    exact Enrollment.orderAt_outside outside
  obtain ⟨packed, unpacked⟩ := packable.pack_unpack
  obtain ⟨repacked, -⟩ := (reload_packable packable).pack_unpack
  rw [packedTemplate_reload prepared marked] at repacked
  have keeps := reload_keepsSelected e
  exact ⟨_, _, packed, unpacked, repacked, keeps.forest, keeps.reconnected, keeps.mask⟩

theorem pack_unpack_idempotent_grid :
    ∃ bytes reloaded, gridGallery.pack = .ok bytes ∧ unpack bytes = .ok reloaded ∧
      reloaded.pack = .ok bytes := by
  have metric : ∀ subtemplate ∈ gridGallery.subtemplates, subtemplate.hasMetricData = true := by
    decide
  obtain ⟨bytes, reloaded, packed, unpacked, repacked, -⟩ :=
    pack_unpack_idempotent (.step .start trivial step_gridGallery) metric gridGallery_prepared
  exact ⟨bytes, reloaded, packed, unpacked, repacked⟩

/-- Study of a loaded print with room leaves a print that loads. -/
theorem append_study_loads {data : List UInt8} {e after : Enrollment} {probe : SubtemplateView}
    {selectedIndex appended : Nat} {relations : List Relation} (accepted : unpack data = .ok e)
    (ok : e.appendStudy probe selectedIndex relations = .ok (after, appended)) :
    ∃ bytes reloaded, after.pack = .ok bytes ∧ bytes.length = after.getPackedSize ∧
      unpack bytes = .ok reloaded ∧ reloaded.count = e.count + 1 ∧
      reloaded.capacity = e.capacity ∧
      ∀ schedule < e.capacity, reloaded.orderAt schedule =
        if schedule = e.count then UInt32.ofNat e.count else e.orderAt schedule := by
  have packable := (accepted_of_unpack accepted).packable
  obtain ⟨-, -, -, -, -, room, -, valid, -⟩ := Enrollment.appendStudy_ok ok
  obtain ⟨-, -, -, records, active⟩ := Enrollment.probeIsValid_iff.mp valid
  obtain ⟨metricData, source, grows⟩ := Enrollment.appendStudy_grows ok
  have grown := packable.grow grows room ⟨rfl, records, active, room⟩
  obtain ⟨packed, unpacked⟩ := grown.pack_unpack
  have inside : e.count < enrollmentCapacity := room.trans_le packable.capacity
  refine ⟨_, _, packed, length_packedTemplate after, unpacked, ?_, grows.capacity,
    fun schedule below => ?_⟩
  · rw [reload_count, grows.count]
  · rw [reload_orderAt after (by rw [grows.capacity]; exact below)]
    exact Enrollment.orderAt_setMatchOrder grows.matchOrder inside schedule

/-- A shifted grid as the matcher hands it to study. -/
def gridProbe : SubtemplateView where
  activeCount := 21
  quality := 80
  coverage := 90
  records := (gridSample true 1).records
  hasMetricData := true
  metricData := some gridMetricData
  densityPositivePercent := 0
  liveAuxiliary := Vector.replicate 6 0

theorem append_study_loads_grid :
    ∃ after appended bytes reloaded,
      gridGallery.reload.appendStudy gridProbe 0 [sentinelRelation] = .ok (after, appended) ∧
        after.pack = .ok bytes ∧ unpack bytes = .ok reloaded ∧ reloaded.count = 2 := by
  have ok : gridGallery.reload.appendStudy gridProbe 0 [sentinelRelation] =
      .ok (_, gridGallery.reload.count) := rfl
  obtain ⟨bytes, reloaded, packed, -, unpacked, counted, -⟩ :=
    append_study_loads gridGallery_packable.pack_unpack.2 ok
  exact ⟨_, _, bytes, reloaded, ok, packed, unpacked, counted⟩

end GoodixSpi.Chicago
