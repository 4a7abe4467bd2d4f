import GoodixSpi.Chicago.Packed.Template
import GoodixSpi.Chicago.Enrollment.Schedule
import Mathlib.Algebra.Order.BigOperators.Group.List

/-! Packing and unpacking again. `reload` is what the bytes of an enrollment mean;
`unpack_packedTemplate` says that `unpack` finds it, and `packedTemplate_reload` that
packing it gives the same bytes. -/

namespace GoodixSpi.Chicago

open ByteReader

/-- What the strict parser asks of a sub-template. -/
structure Subtemplate.Packable (subtemplate : Subtemplate) (capacity recordLimit : Nat) :
    Prop where
  metric : subtemplate.hasMetricData = true
  records : subtemplate.records.length ≤ recordLimit
  active : subtemplate.activeCount ≤ subtemplate.records.length
  lineage : subtemplate.lineageIndex < capacity

/-- What the strict parser asks of an enrollment. -/
structure Enrollment.Packable (e : Enrollment) : Prop where
  count : e.count ≤ e.capacity
  capacity : e.capacity ≤ enrollmentCapacity
  recordLimit : e.recordLimit ≤ subtemplateRecordLimit
  subtemplates : ∀ subtemplate ∈ e.subtemplates,
    subtemplate.Packable e.capacity e.recordLimit
  relations : e.relations.length ≤ e.count * (e.count + 1) / 2
  scheduled : Scheduled e.orderAt e.count e.capacity

def reloadSubtemplate (subtemplate : Subtemplate) : Subtemplate :=
  { subtemplate with
    records := classifyForeground subtemplate.activeCount (subtemplate.records.map reloadRecord)
    hasMetricData := true
    metricData := { subtemplate.metricData with
      positionMap := metricDataBuildPositionMap subtemplate.metricData.coarseMask } }

def Enrollment.reloadTable (self : Enrollment) : RelationTable :=
  self.serializedRelations.foldl RelationTable.store
    ⟨emptyRelations self.relations.length, []⟩

/-- The enrollment that the packed bytes of `self` stand for. -/
def Enrollment.reload (self : Enrollment) : Enrollment :=
  { Enrollment.new with
    capacity := self.capacity
    recordLimit := self.recordLimit
    subtemplates := self.subtemplates.map reloadSubtemplate
    relations := self.reloadTable.relations
    groupEdges := self.reloadTable.groupEdges
    transformCount := self.relations.length
    matchOrder := loadedMatchOrder (self.matchOrder.toList.take self.capacity)
    matcherActiveIndex := self.matcherActiveIndex
    matcherValueA := self.matcherValueA
    matcherValueB := self.matcherValueB
    matcherValueC := self.matcherValueC
    matcherValueD := self.matcherValueD }

/-! ### Sub-templates -/

lemma length_flatMap_records (records : List FeatureRecord) :
    (records.flatMap packedAppendRecord).length = records.length * 32 := by
  induction records with
  | nil => rfl
  | cons record rest ih =>
    rw [List.flatMap_cons, List.length_append, length_packedAppendRecord, ih, List.length_cons,
      packedRecordBytes]
    omega

lemma packedRecords_eq (records : List FeatureRecord) :
    packedRecords records = packedAppendBlob 0xb4 (records.flatMap packedAppendRecord) := by
  rw [packedRecords, packedAppendBlob, length_flatMap_records]

lemma take_prefix {pointer bytes rest : List UInt8}
    (h : pointer.take (bytes ++ rest).length = bytes ++ rest) :
    pointer.take bytes.length = bytes ∧ (pointer.drop bytes.length).take rest.length = rest := by
  have front : pointer.take bytes.length = (pointer.take (bytes ++ rest).length).take bytes.length := by
    rw [List.take_take, List.length_append, Nat.min_eq_left (by omega)]
  have back : (pointer.drop bytes.length).take rest.length =
      (pointer.take (bytes ++ rest).length).drop bytes.length := by
    rw [List.drop_take, List.length_append, Nat.add_sub_cancel_left]
  rw [front, back, h]
  exact ⟨List.take_left, List.drop_left⟩

lemma reads_records (records : List FeatureRecord) (pointer : List UInt8)
    (stands : pointer.take (records.flatMap packedAppendRecord).length =
      records.flatMap packedAppendRecord) (more : List UInt8) :
    Reads (decodeRecords pointer records.length) [] (records.map reloadRecord) more := by
  induction records generalizing pointer with
  | nil => exact Reads.pure [] more
  | cons record rest ih =>
    rw [List.flatMap_cons] at stands
    obtain ⟨here, later⟩ := take_prefix stands
    have loaded := load_of_prefix _ here
    rw [length_packedAppendRecord] at loaded later
    refine Reads.bind_nil (Reads.loadAt loaded _) <| Reads.bind_nil (ih _ later) ?_
    exact Reads.pure _ more

lemma reads_resolution (resolution : UInt32) :
    Reads unpackResolution (packedAppendResolution resolution) resolution [] := by
  unfold unpackResolution packedAppendResolution
  by_cases zero : resolution = 0
  · simp only [zero, ne_eq, not_true_eq_false, if_false]
    exact Reads.bind_nil (Reads.peekIs_nil _) (Reads.pure 0 [])
  · simp only [ne_eq, zero, not_false_eq_true, if_true]
    have found := Reads.peekIs_cons 0xc7 0xc7 (packedAppendU32 resolution ++ [])
    refine Reads.bind_nil found ?_
    exact reads_scalar _ _ _

lemma reads_subtemplateBody {subtemplate : Subtemplate} {capacity recordLimit : Nat}
    (packable : subtemplate.Packable capacity recordLimit) (small : capacity ≤ enrollmentCapacity)
    (short : recordLimit ≤ subtemplateRecordLimit) :
    Reads (unpackSubtemplateBody capacity recordLimit) (packedSubtemplateBody subtemplate)
      (reloadSubtemplate subtemplate) [] := by
  have fifty : enrollmentCapacity = 50 := rfl
  have limit : subtemplateRecordLimit = 120 := rfl
  have few := packable.records
  have active := packable.active
  have lineage := packable.lineage
  have count := toNat_ofNat_of_lt (n := subtemplate.records.length) (by omega)
  have activeCount := toNat_ofNat_of_lt (n := subtemplate.activeCount) (by omega)
  have lineageIndex := toNat_ofNat_of_lt (n := subtemplate.lineageIndex) (by omega)
  have coarse : subtemplate.metricData.coarseMask.toList.length = metricMaskPackedBytes := by simp
  have bytes := length_flatMap_records subtemplate.records
  have recordSize : (UInt32.ofNat (subtemplate.records.flatMap packedAppendRecord).length ==
      UInt32.ofNat subtemplate.records.length * 32) = true := by
    rw [bytes, UInt32.ofNat_mul]
    exact beq_self_eq_true _
  have activeFits : UInt32.ofNat subtemplate.activeCount ≤
      UInt32.ofNat subtemplate.records.length := by
    rw [UInt32.le_iff_toNat_le, count, activeCount]
    exact active
  unfold unpackSubtemplateBody packedSubtemplateBody
  simp only [List.append_assoc]
  refine Reads.bind (reads_map _ _ _) <| Reads.bind (reads_map _ _ _) ?_
  refine reads_blob_bind (by rw [coarse]; decide) fun coarsePointer coarseStands => ?_
  refine Reads.bind_nil (Reads.require (by rw [coarse]; rfl) _) ?_
  refine Reads.bind (reads_map _ _ _) <| Reads.bind (reads_scalar _ _ _) ?_
  refine Reads.bind_nil (Reads.require (by rw [count]; exact decide_eq_true few) _) ?_
  rw [packedRecords_eq]
  refine reads_blob_bind (by rw [bytes]; omega) fun recordPointer recordStands => ?_
  refine Reads.bind_nil (Reads.require recordSize _) ?_
  have coarseLoaded := load_of_prefix _ coarseStands
  refine Reads.bind_nil (Reads.loadAt (by rw [coarse] at coarseLoaded ⊢; exact coarseLoaded) _) ?_
  rw [count]
  refine Reads.bind_nil (reads_records _ _ recordStands _) ?_
  refine Reads.bind (reads_scalar _ _ _) <| Reads.bind (reads_scalar _ _ _) <|
    Reads.bind (reads_scalar _ _ _) ?_
  refine Reads.bind_nil (Reads.require (decide_eq_true activeFits) _) ?_
  refine Reads.bind (reads_scalar _ _ _) <| Reads.bind (reads_scalar _ _ _) <|
    Reads.bind (reads_scalar _ _ _) <| Reads.bind (reads_scalar _ _ _) <|
    Reads.bind (reads_scalar _ _ _) ?_
  refine Reads.bind_nil
    (Reads.require (by rw [lineageIndex]; exact decide_eq_true lineage) _) ?_
  refine Reads.bind (reads_scalar _ _ _) <| Reads.bind (reads_scalar _ _ _) <|
    Reads.bind (reads_scalar _ _ _) ?_
  rw [← List.append_nil (packedAppendResolution subtemplate.metricData.packedResolution)]
  refine Reads.bind (reads_resolution _) <| Reads.bind_nil Reads.finish ?_
  rw [activeCount, lineageIndex, arrayOfBytes_toList]
  exact Reads.pure _ _

lemma length_packedAppendResolution (resolution : UInt32) :
    (packedAppendResolution resolution).length = if resolution ≠ 0 then 5 else 0 := by
  unfold packedAppendResolution
  split <;> rfl

lemma length_packedAppendSubtemplate (subtemplate : Subtemplate) :
    (packedAppendSubtemplate subtemplate).length = subtemplate.records.length * 32 + 685 +
      if subtemplate.metricData.packedResolution ≠ 0 then 5 else 0 := by
  rw [packedAppendSubtemplate, length_packedContainer, packedSubtemplateBody, packedRecords_eq]
  simp only [List.length_append, length_packedAppendMap, length_packedAppendBlob,
    length_packedAppendScalar, length_flatMap_records, length_packedAppendResolution,
    Vector.length_toList, metricMaskPackedBytes]
  omega

lemma reads_subtemplate {subtemplate : Subtemplate} {capacity recordLimit : Nat}
    (packable : subtemplate.Packable capacity recordLimit) (small : capacity ≤ enrollmentCapacity)
    (short : recordLimit ≤ subtemplateRecordLimit) (more : List UInt8) :
    Reads (unpackSubtemplate capacity recordLimit) (packedAppendSubtemplate subtemplate)
      (reloadSubtemplate subtemplate) more := by
  refine reads_container ?_ (reads_subtemplateBody packable small short) more
  have length := length_packedAppendSubtemplate subtemplate
  have limit : subtemplateRecordLimit = 120 := rfl
  have few := packable.records
  rw [packedAppendSubtemplate, length_packedContainer] at length
  split at length <;> omega

/-! ### Relations -/

lemma length_packedRelationBody (index : Nat) (relation : Relation) :
    (packedRelationBody index relation).length = 40 := rfl

lemma length_packedAppendRelation (index : Nat) (relation : Relation) :
    (packedAppendRelation index relation).length = 45 := by
  rw [packedAppendRelation, length_packedContainer, length_packedRelationBody]

lemma transform_eta (transform : Transform) :
    (#v[transform.get 0, transform.get 1, transform.get 2, transform.get 3, transform.get 4,
      transform.get 5] : Transform) = transform := by
  ext index h
  match index, h with
  | 0, _ | 1, _ | 2, _ | 3, _ | 4, _ | 5, _ => rfl

lemma reads_relationBody {relation : Relation} {index relationCount : Nat}
    (inside : index < relationCount) (small : relationCount < 2 ^ 32) :
    Reads (unpackRelationBody relationCount) (packedRelationBody index relation)
      (relation, index) [] := by
  have slot := toNat_ofNat_of_lt (n := index) (by omega)
  unfold unpackRelationBody packedRelationBody
  simp only [List.append_assoc]
  refine Reads.bind (reads_scalar _ _ _) ?_
  refine Reads.bind_nil (Reads.require (by rw [slot]; exact decide_eq_true inside) _) ?_
  refine Reads.bind (reads_scalar _ _ _) <| Reads.bind (reads_scalar _ _ _) <|
    Reads.bind (reads_scalar _ _ _) <| Reads.bind (reads_scalar _ _ _) <|
    Reads.bind (reads_scalar _ _ _) <| Reads.bind (reads_scalar _ _ _) ?_
  rw [← List.append_nil (packedAppendScalar 0xe9 _)]
  refine Reads.bind (reads_scalar _ _ _) <| Reads.bind_nil Reads.finish ?_
  have same : (⟨relation.inlierCount, #v[relation.transform.get 0, relation.transform.get 1,
      relation.transform.get 2, relation.transform.get 3, relation.transform.get 4,
      relation.transform.get 5]⟩ : Relation) = relation := by
    rw [transform_eta]
  rw [slot]
  exact same ▸ Reads.pure _ _

lemma reads_relation {entry : Relation × Nat} {relationCount : Nat}
    (inside : entry.2 < relationCount) (small : relationCount < 2 ^ 32) (table : RelationTable)
    (more : List UInt8) :
    Reads (unpackRelation relationCount table) (packedAppendRelation entry.2 entry.1)
      (table.store entry) more := by
  have shape : unpackRelation relationCount table =
      (packedCursorContainer 0x96 >>= fun body => within body (unpackRelationBody relationCount))
        >>= fun entry => pure (table.store entry) := by
    simp only [unpackRelation, bind_assoc]
  rw [shape, ← List.append_nil (packedAppendRelation entry.2 entry.1)]
  refine Reads.bind (reads_container ?_ (reads_relationBody inside small) _) (Reads.pure _ _)
  rw [length_packedRelationBody]
  decide

/-! ### Matcher state -/

lemma length_flatMap_u32 (words : List UInt32) :
    (words.flatMap packedAppendU32).length = 4 * words.length := by
  induction words with
  | nil => rfl
  | cons word rest ih =>
    rw [List.flatMap_cons, List.length_append, length_packedAppendU32, ih, List.length_cons]
    omega

lemma reads_words (words : List UInt32) (pointer : List UInt8)
    (stands : pointer.take (words.flatMap packedAppendU32).length =
      words.flatMap packedAppendU32) {count : Nat} (few : count ≤ words.length)
    (more : List UInt8) :
    Reads (loadWords pointer count) [] (words.take count) more := by
  induction count generalizing words pointer with
  | zero => exact Reads.pure [] more
  | succ count ih =>
    cases words with
    | nil => simp at few
    | cons word rest =>
      rw [List.flatMap_cons] at stands
      obtain ⟨here, later⟩ := take_prefix stands
      have loaded := load_of_prefix _ here
      rw [length_packedAppendU32] at loaded later
      refine Reads.bind_nil (Reads.loadAt loaded _) <|
        Reads.bind_nil (ih rest _ later (by simpa using few)) ?_
      rw [packedAppendU32, LittleEndian.word_bytes, List.take_succ_cons]
      exact Reads.pure _ more

lemma Scheduled.isPermutation {order : List UInt32} {count capacity : Nat}
    (h : Scheduled (fun schedule => order.getD schedule maxUInt32) count capacity) :
    orderIsPermutation order count = true := by
  simp only [orderIsPermutation, List.all_eq_true, List.mem_range, Bool.and_eq_true,
    decide_eq_true_eq, bne_iff_ne]
  exact fun schedule below => ⟨h.below schedule below, h.distinct schedule below⟩

lemma Scheduled.endsEmpty {order : List UInt32} {count capacity : Nat}
    (h : Scheduled (fun schedule => order.getD schedule maxUInt32) count capacity) :
    orderEndsEmpty order count capacity = true := by
  simp only [orderEndsEmpty, List.all_eq_true, List.mem_range, Bool.or_eq_true,
    decide_eq_true_eq, beq_iff_eq]
  intro schedule below
  by_cases used : schedule < count
  · exact .inl used
  · exact .inr (h.empty schedule (by omega) below)

lemma getD_take_marker (order : List UInt32) {capacity schedule : Nat} (h : schedule < capacity) :
    (order.take capacity).getD schedule maxUInt32 = order.getD schedule maxUInt32 := by
  simp only [List.getD_eq_getElem?_getD, List.getElem?_take, if_pos h]

lemma length_packedVersion : packedVersion.length = 64 := by decide

lemma reads_matcherBody {self : Enrollment} (packable : self.Packable) :
    Reads (unpackMatcherBody self.count self.capacity) self.packedMatcherBody
      ⟨loadedMatchOrder (self.matchOrder.toList.take self.capacity), self.matcherActiveIndex,
        self.matcherValueA, self.matcherValueB, self.matcherValueC, self.matcherValueD⟩ [] := by
  have order : self.matchOrder.toList.length = enrollmentCapacity := by simp
  have bytes := length_flatMap_u32 self.matchOrder.toList
  have version := length_packedVersion
  have zeroes : (List.replicate 1024 (0 : UInt8)).length = 1024 := List.length_replicate
  have scheduled : Scheduled
      (fun schedule => (self.matchOrder.toList.take self.capacity).getD schedule maxUInt32)
      self.count self.capacity :=
    packable.scheduled.congr packable.count fun schedule below => getD_take_marker _ below
  rw [order] at bytes
  unfold unpackMatcherBody Enrollment.packedMatcherBody
  simp only [List.append_assoc]
  refine reads_blob_bind (by rw [bytes]; decide) fun orderPointer orderStands => ?_
  refine Reads.bind_nil (Reads.require (by rw [bytes]; rfl) _) ?_
  refine Reads.bind_nil (reads_words _ _ orderStands (by rw [order]; exact packable.capacity) _) ?_
  refine Reads.bind_nil (Reads.require scheduled.isPermutation _) <|
    Reads.bind_nil (Reads.require scheduled.endsEmpty _) ?_
  refine Reads.bind (reads_scalar _ _ _) ?_
  refine reads_blob_bind (by rw [version]; decide) fun _ _ => ?_
  refine Reads.bind_nil (Reads.require (by rw [version]; rfl) _) ?_
  refine reads_blob_bind (by rw [zeroes]; decide) fun _ _ => ?_
  refine Reads.bind_nil (Reads.require (by rw [zeroes]; rfl) _) ?_
  refine Reads.bind (reads_scalar _ _ _) <| Reads.bind (reads_scalar _ _ _) <|
    Reads.bind (reads_scalar _ _ _) ?_
  rw [← List.append_nil (packedAppendScalar 0xa8 _)]
  refine Reads.bind (reads_scalar _ _ _) <| Reads.bind_nil Reads.finish ?_
  exact Reads.pure _ _

lemma length_packedMatcherBody (self : Enrollment) : self.packedMatcherBody.length = 1328 := by
  have bytes := length_flatMap_u32 self.matchOrder.toList
  have version := length_packedVersion
  simp only [Enrollment.packedMatcherBody, List.length_append, length_packedAppendBlob,
    length_packedAppendScalar, bytes, version, List.length_replicate, Vector.length_toList,
    enrollmentCapacity]

/-! ### The whole template -/

lemma length_packedSchedulerBody (grouped : Nat) : (packedSchedulerBody grouped).length = 20 := rfl

lemma length_packedHeader (self : Enrollment) : self.packedHeader.length = 75 := rfl

lemma packable_relations_lt {self : Enrollment} (packable : self.Packable) :
    self.relations.length ≤ 1275 := by
  have fifty : enrollmentCapacity = 50 := rfl
  have few := packable.count
  have small := packable.capacity
  have bound := packable.relations
  have square : self.count * (self.count + 1) ≤ 50 * 51 :=
    Nat.mul_le_mul (by omega) (by omega)
  omega

/-- The bound of the source is computed in 32 bits, where it does not overflow. -/
lemma relationBound_toNat {count : Nat} (small : count ≤ enrollmentCapacity) :
    (UInt32.ofNat count * (UInt32.ofNat count + 1) / 2).toNat = count * (count + 1) / 2 := by
  have fifty : enrollmentCapacity = 50 := rfl
  have square : count * (count + 1) ≤ 50 * 51 := Nat.mul_le_mul (by omega) (by omega)
  have one : (1 : UInt32).toNat = 1 := rfl
  have two : (2 : UInt32).toNat = 2 := rfl
  have sum : (UInt32.ofNat count + 1).toNat = count + 1 := by
    rw [UInt32.toNat_add, toNat_ofNat_of_lt (by omega), one]
    omega
  rw [UInt32.toNat_div, UInt32.toNat_mul, sum, toNat_ofNat_of_lt (by omega), two,
    Nat.mod_eq_of_lt (by omega)]

lemma reads_header {self : Enrollment} (packable : self.Packable) (more : List UInt8) :
    Reads unpackHeader self.packedHeader
      ⟨self.count, self.capacity, self.relations.length, self.recordLimit⟩ more := by
  have fifty : enrollmentCapacity = 50 := rfl
  have limit : subtemplateRecordLimit = 120 := rfl
  have few := packable.count
  have small := packable.capacity
  have short := packable.recordLimit
  have relationsFew := packable_relations_lt packable
  have count := toNat_ofNat_of_lt (n := self.count) (by omega)
  have capacity := toNat_ofNat_of_lt (n := self.capacity) (by omega)
  have recordLimit := toNat_ofNat_of_lt (n := self.recordLimit) (by omega)
  have relations := toNat_ofNat_of_lt (n := self.relations.length) (by omega)
  have fits : UInt32.ofNat self.count ≤ UInt32.ofNat self.capacity := by
    rw [UInt32.le_iff_toNat_le, count, capacity]
    exact few
  have bounded : UInt32.ofNat self.relations.length ≤
      UInt32.ofNat self.count * (UInt32.ofNat self.count + 1) / 2 := by
    rw [UInt32.le_iff_toNat_le, relations, relationBound_toNat (by omega)]
    exact packable.relations
  unfold unpackHeader Enrollment.packedHeader
  simp only [List.append_assoc]
  refine Reads.bind (reads_expect _ _ _) <| Reads.bind (reads_expect _ _ _) <|
    Reads.bind (reads_expect _ _ _) <| Reads.bind (reads_expect _ _ _) <|
    Reads.bind (reads_expect _ _ _) <| Reads.bind (reads_expect _ _ _) ?_
  refine Reads.bind (reads_scalar _ _ _) <| Reads.bind (reads_scalar _ _ _) <|
    Reads.bind (reads_scalar _ _ _) <| Reads.bind (reads_scalar _ _ _) ?_
  refine Reads.bind (reads_expect _ _ _) <| Reads.bind (reads_expect _ _ _) <|
    Reads.bind (reads_expect _ _ _) <| Reads.bind (reads_expect _ _ _) ?_
  rw [← List.append_nil (packedAppendScalar 0xfb 0)]
  refine Reads.bind (reads_expect _ _ _) ?_
  refine Reads.bind_nil (Reads.require (decide_eq_true fits) _) ?_
  refine Reads.bind_nil (Reads.require (by rw [capacity]; exact decide_eq_true small) _) ?_
  refine Reads.bind_nil (Reads.require (by rw [recordLimit]; exact decide_eq_true short) _) ?_
  refine Reads.bind_nil (Reads.require (decide_eq_true bounded) _) ?_
  rw [count, capacity, recordLimit, relations]
  exact Reads.pure _ more

lemma mem_serializedRelations {self : Enrollment} {entry : Relation × Nat} :
    entry ∈ self.serializedRelations ↔
      entry.2 ∈ self.buildSerializedRelationMask.slots ∧
        self.relations[entry.2]? = some entry.1 := by
  simp only [Enrollment.serializedRelations, List.mem_filterMap, Option.map_eq_some_iff]
  constructor
  · rintro ⟨slot, selected, relation, found, rfl⟩
    exact ⟨selected, found⟩
  · rintro ⟨selected, found⟩
    exact ⟨entry.2, selected, entry.1, found, rfl⟩

lemma serializedRelations_inside {self : Enrollment} {entry : Relation × Nat}
    (h : entry ∈ self.serializedRelations) : entry.2 < self.relations.length :=
  (self.mem_mask_slots.mp (mem_serializedRelations.mp h).1).1

/-- A container whose cursor is only checked for its size. -/
lemma reads_container_size {β : Type} {tag : UInt8} {body rest more : List UInt8} {size : Nat}
    {next : Reader β} {result : β} (small : size < 2 ^ 32) (length : body.length = size)
    (h : Reads next rest result more) :
    Reads (packedCursorContainer tag >>= fun cursor =>
        require (cursor.size == size) >>= fun _ => next)
      (packedContainer tag body ++ rest) result more := by
  have shape : (packedCursorContainer tag >>= fun cursor =>
      require (cursor.size == size) >>= fun _ => next) =
      packedCursorBlob tag >>= fun blob => require (blob.2.toNat == size) >>= fun _ => next := by
    simp only [packedCursorContainer, bind_assoc, pure_bind]
  rw [shape]
  refine reads_blob_bind (by omega) fun pointer _ => ?_
  refine Reads.bind_nil (Reads.require ?_ _) h
  rw [toNat_ofNat_of_lt (by omega), length]
  exact beq_self_eq_true size

lemma reads_body {self : Enrollment} (packable : self.Packable) :
    Reads unpackBody self.packedBody self.reload [] := by
  have few := packable_relations_lt packable
  unfold unpackBody Enrollment.packedBody Enrollment.packedAppendMatcherState
  simp only [List.append_assoc]
  refine Reads.bind (reads_header packable _) ?_
  refine Reads.bind (Reads.times self.subtemplates (fun subtemplate listed =>
    reads_subtemplate (packable.subtemplates subtemplate listed) packable.capacity
      packable.recordLimit) _) ?_
  refine Reads.bind (Reads.whileTag self.serializedRelations (fun entry _ => ⟨_, rfl⟩)
    (fun entry listed => reads_relation (serializedRelations_inside listed) (by omega)) ?_ _) ?_
  · rintro byte rest h rfl
    have first := congrArg List.head? h
    simp [packedContainer] at first
  refine reads_container_size (by decide) (length_packedSchedulerBody _) ?_
  -- The matcher state is checked for its size and read only after the outer cursor ended.
  have shape : ∀ next : MatcherState → Reader Enrollment,
      (packedCursorContainer 0x94 >>= fun matcherState =>
        require (matcherState.size == 1328) >>= fun _ => finish >>= fun _ =>
          within matcherState (unpackMatcherBody self.count self.capacity) >>= next) =
      packedCursorBlob 0x94 >>= fun blob => require (blob.2.toNat == 1328) >>= fun _ =>
        finish >>= fun _ => within ⟨blob.1, blob.2.toNat, 0⟩
          (unpackMatcherBody self.count self.capacity) >>= next := by
    intro next
    simp only [packedCursorContainer, bind_assoc, pure_bind]
  have length := length_packedMatcherBody self
  rw [shape, ← List.append_nil (packedContainer 0x94 self.packedMatcherBody)]
  refine reads_blob_bind (by rw [length]; decide) fun pointer stands => ?_
  have long : self.packedMatcherBody.length ≤ pointer.length := by
    have := congrArg List.length stands
    rw [List.length_take] at this
    omega
  have inside : Cursor.Within ⟨pointer, self.packedMatcherBody.length, 0⟩ :=
    ⟨Nat.zero_le _, long⟩
  have size := toNat_ofNat_of_lt (n := self.packedMatcherBody.length) (by omega)
  refine Reads.bind_nil (Reads.require (by rw [size, length]; rfl) _) <|
    Reads.bind_nil Reads.finish ?_
  rw [size]
  refine Reads.bind_nil (Reads.within inside stands (reads_matcherBody packable) _) ?_
  exact Reads.pure _ []

/-! ### The size formula -/

lemma length_filterMap_of_isSome {α β : Type} {f : α → Option β} {items : List α}
    (all : ∀ a ∈ items, (f a).isSome = true) : (items.filterMap f).length = items.length := by
  rw [List.length_filterMap_eq_countP]
  exact List.countP_eq_length.mpr all

lemma length_serializedRelations (self : Enrollment) :
    self.serializedRelations.length = self.buildSerializedRelationMask.selected := by
  rw [Enrollment.serializedRelations, length_filterMap_of_isSome]
  · exact self.mask_counted.length_slots
  · intro slot selected
    have inside := (self.mem_mask_slots.mp selected).1
    simp [inside]

lemma length_flatMap_relations (entries : List (Relation × Nat)) :
    (entries.flatMap fun entry => packedAppendRelation entry.2 entry.1).length =
      entries.length * 45 := by
  induction entries with
  | nil => rfl
  | cons entry rest ih =>
    rw [List.flatMap_cons, List.length_append, length_packedAppendRelation, ih, List.length_cons]
    omega

lemma length_flatMap_subtemplates (subtemplates : List Subtemplate) :
    (subtemplates.flatMap packedAppendSubtemplate).length =
      (subtemplates.map fun subtemplate => subtemplate.records.length * 32 + 685 +
        if subtemplate.metricData.packedResolution ≠ 0 then 5 else 0).sum := by
  induction subtemplates with
  | nil => rfl
  | cons subtemplate rest ih =>
    rw [List.flatMap_cons, List.length_append, length_packedAppendSubtemplate, ih, List.map_cons,
      List.sum_cons]

/-- The precomputed size is the number of bytes written. -/
theorem length_packedTemplate (self : Enrollment) :
    self.packedTemplate.length = self.getPackedSize := by
  simp only [Enrollment.packedTemplate, Enrollment.packedBody, Enrollment.packedAppendMatcherState,
    Enrollment.getPackedSize, List.length_append, List.length_cons, length_packedAppendU32,
    length_packedContainer, length_packedHeader, length_packedSchedulerBody,
    length_packedMatcherBody, length_flatMap_subtemplates, length_flatMap_relations,
    length_serializedRelations]
  omega

theorem pack_eq_ok {self : Enrollment}
    (metric : ∀ subtemplate ∈ self.subtemplates, subtemplate.hasMetricData = true) :
    self.pack = .ok self.packedTemplate := by
  have all : (self.subtemplates.any fun subtemplate => !subtemplate.hasMetricData) = false := by
    simp only [List.any_eq_false, Bool.not_eq_true', Bool.not_eq_false]
    exact metric
  simp only [Enrollment.pack, all, Bool.false_eq_true, if_false, length_packedTemplate, ne_eq,
    not_true_eq_false]

lemma packedBody_small {self : Enrollment} (packable : self.Packable) :
    self.packedBody.length < 2 ^ 32 := by
  have fifty : enrollmentCapacity = 50 := rfl
  have limit : subtemplateRecordLimit = 120 := rfl
  have few := packable.count
  have small := packable.capacity
  have short := packable.recordLimit
  have relationsFew := packable_relations_lt packable
  have selected : self.serializedRelations.length ≤ self.relations.length := by
    rw [length_serializedRelations, ← self.mask_counted.length_slots, ← self.mask_length]
    exact (List.length_filter_le _ _).trans (by rw [List.length_range])
  have subtemplates : (self.subtemplates.flatMap packedAppendSubtemplate).length ≤
      self.count * 4530 := by
    rw [length_flatMap_subtemplates]
    refine (List.sum_le_card_nsmul _ 4530 ?_).trans (by rw [List.length_map]; exact Nat.le_refl _)
    intro size hsize
    obtain ⟨subtemplate, listed, rfl⟩ := List.mem_map.mp hsize
    have records := (packable.subtemplates subtemplate listed).records
    split <;> omega
  simp only [Enrollment.packedBody, Enrollment.packedAppendMatcherState, List.length_append,
    length_packedContainer, length_packedHeader, length_packedSchedulerBody,
    length_packedMatcherBody, length_flatMap_relations]
  omega

lemma packedFrame_packed {self : Enrollment} (packable : self.Packable) :
    packedFrame self.packedTemplate = .ok ⟨self.packedBody, self.packedBody.length, 0⟩ := by
  have length : self.packedTemplate.length = self.packedBody.length + 10 := by
    simp only [Enrollment.packedTemplate, List.length_append, List.length_cons,
      length_packedAppendU32]
    omega
  have body : self.packedTemplate.drop 10 = self.packedBody := rfl
  have crc : load (self.packedTemplate.drop 1) 4 =
      .ok (packedAppendU32 (packedCrc32 self.packedBody)) :=
    load_of_prefix (packedAppendU32 _) rfl
  have size : load (self.packedTemplate.drop 6) 4 =
      .ok (packedAppendU32 (UInt32.ofNat self.packedBody.length)) :=
    load_of_prefix (packedAppendU32 _) rfl
  have magic : load self.packedTemplate 1 = .ok [0x87] :=
    load_of_prefix [0x87] rfl
  have sizeTag : load (self.packedTemplate.drop 5) 1 = .ok [0x86] :=
    load_of_prefix [0x86] rfl
  have declared := toNat_ofNat_of_lt (packedBody_small packable)
  have long : ¬self.packedTemplate.length < 10 := by omega
  have rest : self.packedTemplate.length - 10 = self.packedBody.length := by omega
  simp only [packedFrame, if_neg long, crc, size, magic, sizeTag, body, Bind.bind, Except.bind,
    packedAppendU32, LittleEndian.word_bytes, declared, rest, ne_eq, not_true_eq_false, or_self,
    if_false]

/-- Unpacking a packed enrollment gives the enrollment its bytes stand for. -/
theorem unpack_packedTemplate {self : Enrollment} (packable : self.Packable) :
    unpack self.packedTemplate = .ok self.reload := by
  have inside : Cursor.Within ⟨self.packedBody, self.packedBody.length, 0⟩ :=
    ⟨Nat.zero_le _, Nat.le_refl _⟩
  have all : Cursor.remaining ⟨self.packedBody, self.packedBody.length, 0⟩ =
      self.packedBody ++ [] := by
    simp [Cursor.remaining]
  have read := reads_body packable _ inside all
  simp only [unpack, packedFrame_packed packable, read]

/-! ### The reloaded enrollment -/

lemma foldl_store_relations {relations : List Relation} (entries : List (Relation × Nat))
    (from_ : ∀ entry ∈ entries, relations[entry.2]? = some entry.1) (table : RelationTable)
    (length : table.relations.length = relations.length) :
    (entries.foldl RelationTable.store table).relations.length = relations.length ∧
      ∀ slot, (entries.foldl RelationTable.store table).relations[slot]? =
        if slot ∈ entries.map Prod.snd then relations[slot]? else table.relations[slot]? := by
  induction entries generalizing table with
  | nil => exact ⟨length, fun slot => by simp⟩
  | cons entry rest ih =>
    have here := from_ entry List.mem_cons_self
    have inside : entry.2 < relations.length := (List.getElem?_eq_some_iff.mp here).1
    obtain ⟨length', at_⟩ := ih (fun e he => from_ e (List.mem_cons_of_mem entry he))
      (table.store entry) (by simpa [RelationTable.store] using length)
    refine ⟨length', fun slot => ?_⟩
    rw [List.foldl_cons, at_, List.map_cons]
    by_cases later : slot ∈ rest.map Prod.snd
    · rw [if_pos later, if_pos (List.mem_cons_of_mem _ later)]
    · rw [if_neg later]
      by_cases same : slot = entry.2
      · subst same
        rw [if_pos List.mem_cons_self, here]
        simp [RelationTable.store, length, inside]
      · have differs : ¬slot ∈ entry.2 :: rest.map Prod.snd := by
          simp only [List.mem_cons, not_or]
          exact ⟨same, later⟩
        rw [if_neg differs]
        simp only [RelationTable.store]
        exact List.getElem?_set_ne fun e => same e.symm

lemma foldl_store_edges (entries : List (Relation × Nat)) (table : RelationTable) :
    (entries.foldl RelationTable.store table).groupEdges =
      table.groupEdges ++ entries.map Prod.snd := by
  induction entries generalizing table with
  | nil => simp
  | cons entry rest ih =>
    rw [List.foldl_cons, ih, RelationTable.store, List.map_cons, List.append_assoc,
      List.singleton_append]

lemma map_snd_serializedRelations (self : Enrollment) :
    self.serializedRelations.map Prod.snd = self.buildSerializedRelationMask.slots := by
  have all : ∀ slots : List Nat, (∀ slot ∈ slots, slot < self.relations.length) →
      (slots.filterMap fun slot => self.relations[slot]?.map fun relation =>
        (relation, slot)).map Prod.snd = slots := by
    intro slots inside
    induction slots with
    | nil => rfl
    | cons slot rest ih =>
      have here := inside slot List.mem_cons_self
      rw [List.filterMap_cons, List.getElem?_eq_getElem here]
      simp only [Option.map_some, List.map_cons]
      rw [ih fun s hs => inside s (List.mem_cons_of_mem slot hs)]
  exact all _ fun slot selected => (self.mem_mask_slots.mp selected).1

lemma reloadTable_spec (self : Enrollment) :
    self.reloadTable.relations.length = self.relations.length ∧
      ∀ slot, self.reloadTable.relations[slot]? =
        if slot ∈ self.buildSerializedRelationMask.slots then self.relations[slot]?
        else (emptyRelations self.relations.length)[slot]? := by
  have spec := @foldl_store_relations self.relations self.serializedRelations
    (fun entry listed => (mem_serializedRelations.mp listed).2)
    ⟨emptyRelations self.relations.length, []⟩ (by simp [emptyRelations])
  rw [map_snd_serializedRelations] at spec
  exact spec

lemma reload_groupEdges (self : Enrollment) :
    self.reload.groupEdges = self.buildSerializedRelationMask.slots := by
  simp only [Enrollment.reload, Enrollment.reloadTable, foldl_store_edges, List.nil_append,
    map_snd_serializedRelations]

lemma reload_count (self : Enrollment) : self.reload.count = self.count := by
  simp [Enrollment.reload, Enrollment.count]

lemma reload_keepsSelected (self : Enrollment) : Enrollment.KeepsSelected self self.reload where
  count := reload_count self
  base index := by
    simp only [Enrollment.relationBase, Enrollment.reload, List.getElem?_map, Option.map_map]
    rfl
  group index := by
    simp only [Enrollment.groupState, Enrollment.reload, List.getElem?_map, Option.map_map]
    rfl
  length := (reloadTable_spec self).1
  kept slot selected := by
    have at_ := (reloadTable_spec self).2 slot
    rwa [if_pos selected] at at_
  dropped slot relation unselected found := by
    have at_ := (reloadTable_spec self).2 slot
    rw [if_neg unselected] at at_
    have sentinel : (emptyRelations self.relations.length)[slot]? = some relation :=
      at_.symm.trans found
    simp only [emptyRelations, List.getElem?_map, Option.map_eq_some_iff] at sentinel
    obtain ⟨_, -, rfl⟩ := sentinel
    show (-1 : Int32).toInt < 0
    decide

lemma length_classifyForeground (activeCount : Nat) (records : List FeatureRecord) :
    (classifyForeground activeCount records).length = records.length := by
  simp [classifyForeground]

lemma reload_orderAt (self : Enrollment) {schedule : Nat} (h : schedule < self.capacity) :
    self.reload.orderAt schedule = self.orderAt schedule := by
  simp only [Enrollment.orderAt, Enrollment.reload, loadedMatchOrder, Vector.toList_ofFn]
  by_cases inside : schedule < enrollmentCapacity
  · rw [List.getD_eq_getElem?_getD, List.getElem?_ofFn, dif_pos inside, Option.getD_some]
    exact getD_take_marker _ h
  · have order : self.matchOrder.toList.length = enrollmentCapacity := by simp
    rw [List.getD_eq_getElem?_getD, List.getD_eq_getElem?_getD,
      List.getElem?_eq_none (by rw [List.length_ofFn]; omega),
      List.getElem?_eq_none (by omega)]

lemma reloadSubtemplate_packable {subtemplate : Subtemplate} {capacity recordLimit : Nat}
    (packable : subtemplate.Packable capacity recordLimit) :
    (reloadSubtemplate subtemplate).Packable capacity recordLimit where
  metric := rfl
  records := by
    simpa [reloadSubtemplate, length_classifyForeground] using packable.records
  active := by
    simpa [reloadSubtemplate, length_classifyForeground] using packable.active
  lineage := packable.lineage

lemma reload_packable {self : Enrollment} (packable : self.Packable) : self.reload.Packable where
  count := by
    rw [reload_count]
    exact packable.count
  capacity := packable.capacity
  recordLimit := packable.recordLimit
  subtemplates subtemplate listed := by
    obtain ⟨original, here, rfl⟩ := List.mem_map.mp listed
    exact reloadSubtemplate_packable (packable.subtemplates original here)
  relations := by
    rw [reload_count]
    exact (reloadTable_spec self).1.trans_le packable.relations
  scheduled := by
    rw [reload_count]
    exact packable.scheduled.congr packable.count fun schedule below => reload_orderAt self below

/-! ### Packing the reloaded enrollment -/

lemma packedAppendRecord_foreground (record : FeatureRecord) (foreground : UInt16) :
    packedAppendRecord { record with foreground := foreground } = packedAppendRecord record :=
  rfl

lemma packed_classifyForeground (activeCount : Nat) (records : List FeatureRecord) :
    (classifyForeground activeCount records).flatMap packedAppendRecord =
      records.flatMap packedAppendRecord := by
  simp only [List.flatMap_def]
  congr 1
  refine List.ext_getElem (by simp [classifyForeground]) fun index h₁ h₂ => ?_
  simp only [classifyForeground, List.getElem_map, List.getElem_mapIdx]
  split
  · exact packedAppendRecord_foreground _ 1
  · rfl

lemma packed_reloadRecords {records : List FeatureRecord}
    (prepared : ∀ record ∈ records, record.Prepared) :
    (records.map reloadRecord).flatMap packedAppendRecord = records.flatMap packedAppendRecord := by
  induction records with
  | nil => rfl
  | cons record rest ih =>
    rw [List.map_cons, List.flatMap_cons, List.flatMap_cons,
      packed_reload (prepared record List.mem_cons_self),
      ih fun r listed => prepared r (List.mem_cons_of_mem record listed)]

lemma packedAppendSubtemplate_reload {subtemplate : Subtemplate}
    (prepared : ∀ record ∈ subtemplate.records, record.Prepared) :
    packedAppendSubtemplate (reloadSubtemplate subtemplate) =
      packedAppendSubtemplate subtemplate := by
  have records : packedRecords (reloadSubtemplate subtemplate).records =
      packedRecords subtemplate.records := by
    rw [packedRecords_eq, packedRecords_eq]
    simp only [reloadSubtemplate]
    rw [packed_classifyForeground, packed_reloadRecords prepared]
  have length : (reloadSubtemplate subtemplate).records.length = subtemplate.records.length := by
    simp [reloadSubtemplate, length_classifyForeground]
  simp only [packedAppendSubtemplate, packedSubtemplateBody, records, length]
  simp only [reloadSubtemplate]

lemma serializedRelations_reload (self : Enrollment) :
    self.reload.serializedRelations = self.serializedRelations := by
  have mask := (reload_keepsSelected self).mask
  simp only [Enrollment.serializedRelations, mask]
  refine List.filterMap_congr fun slot selected => ?_
  rw [(reload_keepsSelected self).kept slot selected]

lemma groupedCount_reload (self : Enrollment) :
    self.reload.groupedCount = self.groupedCount := by
  simp only [Enrollment.groupedCount, Enrollment.reload, List.countP_map]
  rfl

lemma matchOrder_reload {self : Enrollment}
    (marked : ∀ schedule, self.capacity ≤ schedule → self.orderAt schedule = maxUInt32) :
    self.reload.matchOrder = self.matchOrder := by
  ext schedule h
  have at_ : ∀ e : Enrollment, e.orderAt schedule = e.matchOrder[schedule] := by
    intro e
    simp [Enrollment.orderAt, h]
  rw [← at_, ← at_]
  by_cases below : schedule < self.capacity
  · exact congrArg _ (reload_orderAt self below)
  · rw [marked schedule (by omega)]
    have unread : self.reload.orderAt schedule = maxUInt32 := by
      rw [at_]
      simp only [Enrollment.reload, loadedMatchOrder, Vector.getElem_ofFn]
      rw [List.getD_eq_getElem?_getD, List.getElem?_eq_none (by rw [List.length_take]; omega)]
      rfl
    rw [unread]

/-- A reloaded enrollment packs to the bytes it was loaded from. -/
theorem packedTemplate_reload {self : Enrollment}
    (prepared : ∀ subtemplate ∈ self.subtemplates, ∀ record ∈ subtemplate.records,
      record.Prepared)
    (marked : ∀ schedule, self.capacity ≤ schedule → self.orderAt schedule = maxUInt32) :
    self.reload.packedTemplate = self.packedTemplate := by
  have header : self.reload.packedHeader = self.packedHeader := by
    simp only [Enrollment.packedHeader, reload_count, (reload_keepsSelected self).length]
    rfl
  have subtemplates : self.reload.subtemplates.flatMap packedAppendSubtemplate =
      self.subtemplates.flatMap packedAppendSubtemplate := by
    simp only [Enrollment.reload, List.flatMap_def, List.map_map]
    exact congrArg List.flatten (List.map_congr_left fun subtemplate listed =>
      packedAppendSubtemplate_reload (prepared subtemplate listed))
  have matcher : self.reload.packedMatcherBody = self.packedMatcherBody := by
    simp only [Enrollment.packedMatcherBody, matchOrder_reload marked]
    rfl
  have body : self.reload.packedBody = self.packedBody := by
    simp only [Enrollment.packedBody, Enrollment.packedAppendMatcherState, header, subtemplates,
      matcher, serializedRelations_reload, groupedCount_reload]
  simp only [Enrollment.packedTemplate, body]

end GoodixSpi.Chicago
