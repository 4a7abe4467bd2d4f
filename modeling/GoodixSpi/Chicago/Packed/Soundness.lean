import GoodixSpi.Chicago.Packed.RoundTrip

/-! Unpacking arbitrary bytes: no read leaves the input, no loop runs on, and whatever
is accepted is an enrollment that can be packed again. -/

namespace GoodixSpi.Chicago

open ByteReader

structure PackedHeader.Sound (header : PackedHeader) : Prop where
  count : header.subtemplateCount ≤ header.capacity
  capacity : header.capacity ≤ enrollmentCapacity
  recordLimit : header.recordLimit ≤ subtemplateRecordLimit
  relations : header.relationCount ≤
    header.subtemplateCount * (header.subtemplateCount + 1) / 2

lemma safe_header : Safe 0 unpackHeader PackedHeader.Sound := by
  refine (safe_expect _ _).bind₀ fun _ _ => (safe_expect _ _).bind₀ fun _ _ =>
    (safe_expect _ _).bind₀ fun _ _ => (safe_expect _ _).bind₀ fun _ _ =>
    (safe_expect _ _).bind₀ fun _ _ => (safe_expect _ _).bind₀ fun _ _ =>
    (safe_scalar _).bind₀ fun subtemplateCount _ => (safe_scalar _).bind₀ fun capacity _ =>
    (safe_scalar _).bind₀ fun relationCount _ => (safe_scalar _).bind₀ fun recordLimit _ =>
    (safe_expect _ _).bind₀ fun _ _ => (safe_expect _ _).bind₀ fun _ _ =>
    (safe_expect _ _).bind₀ fun _ _ => (safe_expect _ _).bind₀ fun _ _ =>
    (safe_expect _ _).bind₀ fun _ _ => (Safe.require _).bind₀ fun _ fits =>
    (Safe.require _).bind₀ fun _ small => (Safe.require _).bind₀ fun _ short =>
    (Safe.require _).bind₀ fun _ bounded => Safe.pure ?_
  have few := UInt32.le_iff_toNat_le.mp (of_decide_eq_true fits)
  have tiny := of_decide_eq_true small
  have triangle := UInt32.le_iff_toNat_le.mp (of_decide_eq_true bounded)
  have bound := relationBound_toNat (few.trans tiny)
  rw [UInt32.ofNat_toNat] at bound
  exact ⟨few, tiny, of_decide_eq_true short, triangle.trans_eq bound⟩

lemma safe_records (pointer : List UInt8) (count : Nat) (long : count * 32 ≤ pointer.length) :
    Safe 0 (decodeRecords pointer count) fun records => records.length = count := by
  induction count generalizing pointer with
  | zero => exact Safe.pure rfl
  | succ count ih =>
    have here : packedRecordBytes ≤ pointer.length := by
      rw [packedRecordBytes]
      omega
    have later : count * 32 ≤ (pointer.drop packedRecordBytes).length := by
      rw [List.length_drop, packedRecordBytes]
      omega
    refine (Safe.loadAt here).bind₀ fun _ _ => (ih _ later).bind₀ fun rest length =>
      Safe.pure ?_
    rw [List.length_cons, length]

lemma safe_resolution : Safe 0 unpackResolution fun _ => True := by
  refine (Safe.peekIs _).bind₀ fun found _ => ?_
  cases found with
  | true => exact (safe_scalar _).weaken (Nat.zero_le _) fun _ h => h
  | false => exact Safe.pure trivial

lemma safe_subtemplateBody {capacity recordLimit : Nat} (short : recordLimit ≤ 120) :
    Safe 0 (unpackSubtemplateBody capacity recordLimit) fun subtemplate =>
      subtemplate.Packable capacity recordLimit := by
  refine (safe_map _).bind₀ fun _ _ => (safe_map _).bind₀ fun _ _ =>
    (safe_blob _).bind₀ fun coarse coarseLong => (Safe.require _).bind₀ fun _ coarseSize =>
    (safe_map _).bind₀ fun _ _ => (safe_scalar _).bind₀ fun recordCount _ =>
    (Safe.require _).bind₀ fun _ few => (safe_blob _).bind₀ fun records recordsLong =>
    (Safe.require _).bind₀ fun _ recordsSize => (Safe.loadAt coarseLong).bind₀ fun _ _ => ?_
  have limited := of_decide_eq_true few
  have size : records.2.toNat = recordCount.toNat * 32 := by
    have thirtyTwo : (32 : UInt32).toNat = 32 := rfl
    rw [eq_of_beq recordsSize, UInt32.toNat_mul, thirtyTwo]
    exact Nat.mod_eq_of_lt (by omega)
  refine (safe_records _ _ (by omega)).bind₀ fun decoded length => ?_
  refine (safe_scalar _).bind₀ fun _ _ => (safe_scalar _).bind₀ fun _ _ =>
    (safe_scalar _).bind₀ fun activeCount _ => (Safe.require _).bind₀ fun _ active =>
    (safe_scalar _).bind₀ fun _ _ => (safe_scalar _).bind₀ fun _ _ =>
    (safe_scalar _).bind₀ fun _ _ => (safe_scalar _).bind₀ fun _ _ =>
    (safe_scalar _).bind₀ fun serializedIndex _ => (Safe.require _).bind₀ fun _ lineage =>
    (safe_scalar _).bind₀ fun _ _ => (safe_scalar _).bind₀ fun _ _ =>
    (safe_scalar _).bind₀ fun _ _ => safe_resolution.bind₀ fun _ _ =>
    Safe.finish.bind₀ fun _ _ => Safe.pure ?_
  have admitted := UInt32.le_iff_toNat_le.mp (of_decide_eq_true active)
  exact
    { metric := rfl
      records := by
        show (classifyForeground _ decoded).length ≤ recordLimit
        rw [length_classifyForeground, length]
        exact limited
      active := by
        show activeCount.toNat ≤ (classifyForeground _ decoded).length
        rw [length_classifyForeground, length]
        exact admitted
      lineage := of_decide_eq_true lineage }

lemma safe_subtemplate {capacity recordLimit : Nat} (short : recordLimit ≤ 120) :
    Safe 5 (unpackSubtemplate capacity recordLimit) fun subtemplate =>
      subtemplate.Packable capacity recordLimit :=
  (safe_container _).bind_last fun _ inside =>
    Safe.within inside (safe_subtemplateBody short)

/-- Every relation written so far lies in the table. -/
structure RelationTable.Sound (table : RelationTable) (relationCount : Nat) : Prop where
  length : table.relations.length = relationCount
  edges : ∀ edge ∈ table.groupEdges, edge < relationCount

lemma RelationTable.Sound.store {table : RelationTable} {relationCount : Nat}
    (h : table.Sound relationCount) {entry : Relation × Nat} (inside : entry.2 < relationCount) :
    (table.store entry).Sound relationCount where
  length := by
    rw [RelationTable.store, List.length_set]
    exact h.length
  edges edge listed := by
    rcases List.mem_append.mp listed with old | new
    · exact h.edges edge old
    · rw [List.mem_singleton.mp new]
      exact inside

lemma safe_relation {relationCount : Nat} {table : RelationTable}
    (sound : table.Sound relationCount) :
    Safe 1 (unpackRelation relationCount table) fun table => table.Sound relationCount := by
  have body : Safe 0 (unpackRelationBody relationCount) fun entry => entry.2 < relationCount := by
    refine (safe_scalar _).bind₀ fun _ _ => (Safe.require _).bind₀ fun _ inside =>
      (safe_scalar _).bind₀ fun _ _ => (safe_scalar _).bind₀ fun _ _ =>
      (safe_scalar _).bind₀ fun _ _ => (safe_scalar _).bind₀ fun _ _ =>
      (safe_scalar _).bind₀ fun _ _ => (safe_scalar _).bind₀ fun _ _ =>
      (safe_scalar _).bind₀ fun _ _ => Safe.finish.bind₀ fun _ _ => Safe.pure ?_
    exact of_decide_eq_true inside
  refine Safe.weaken ((safe_container _).bind_last fun cursor within_ =>
    (Safe.within within_ body).bind₀ fun entry inside => Safe.pure (sound.store inside))
    (by decide) fun _ h => h

lemma safe_words (pointer : List UInt8) (count : Nat) (long : count * 4 ≤ pointer.length) :
    Safe 0 (loadWords pointer count) fun words => words.length = count := by
  induction count generalizing pointer with
  | zero => exact Safe.pure rfl
  | succ count ih =>
    have later : count * 4 ≤ (pointer.drop 4).length := by
      rw [List.length_drop]
      omega
    refine (Safe.loadAt (by omega)).bind₀ fun _ _ => (ih _ later).bind₀ fun rest length =>
      Safe.pure ?_
    rw [List.length_cons, length]

lemma scheduled_of_checks {order : List UInt32} {count capacity : Nat}
    (visits : orderIsPermutation order count = true)
    (ends : orderEndsEmpty order count capacity = true) :
    Scheduled (fun schedule => order.getD schedule maxUInt32) count capacity := by
  simp only [orderIsPermutation, List.all_eq_true, List.mem_range, Bool.and_eq_true,
    decide_eq_true_eq, bne_iff_ne] at visits
  simp only [orderEndsEmpty, List.all_eq_true, List.mem_range, Bool.or_eq_true,
    decide_eq_true_eq, beq_iff_eq] at ends
  refine ⟨fun schedule used => (visits schedule used).1,
    fun schedule used => (visits schedule used).2, fun schedule free below => ?_⟩
  rcases ends schedule below with used | empty
  · omega
  · exact empty

lemma loadedMatchOrder_orderAt (order : List UInt32) {schedule : Nat}
    (inside : schedule < enrollmentCapacity) :
    (loadedMatchOrder order).toList.getD schedule maxUInt32 = order.getD schedule maxUInt32 := by
  rw [loadedMatchOrder, Vector.toList_ofFn, List.getD_eq_getElem?_getD, List.getElem?_ofFn,
    dif_pos inside, Option.getD_some]

lemma safe_matcherBody {count capacity : Nat} (few : count ≤ capacity)
    (small : capacity ≤ enrollmentCapacity) :
    Safe 0 (unpackMatcherBody count capacity) fun matcher =>
      Scheduled (fun schedule => matcher.matchOrder.toList.getD schedule maxUInt32)
        count capacity := by
  refine (safe_blob _).bind₀ fun order orderLong => (Safe.require _).bind₀ fun _ orderSize => ?_
  have size := eq_of_beq orderSize
  refine (safe_words _ _ (by omega)).bind₀ fun words _ => (Safe.require _).bind₀ fun _ visits =>
    (Safe.require _).bind₀ fun _ ends => (safe_scalar _).bind₀ fun _ _ =>
    (safe_blob _).bind₀ fun _ _ => (Safe.require _).bind₀ fun _ _ =>
    (safe_blob _).bind₀ fun _ _ => (Safe.require _).bind₀ fun _ _ =>
    (safe_scalar _).bind₀ fun _ _ => (safe_scalar _).bind₀ fun _ _ =>
    (safe_scalar _).bind₀ fun _ _ => (safe_scalar _).bind₀ fun _ _ =>
    Safe.finish.bind₀ fun _ _ => Safe.pure ?_
  exact (scheduled_of_checks visits ends).congr few fun schedule below =>
    loadedMatchOrder_orderAt words (by omega)

/-- What `unpack` guarantees of the enrollment it accepts. -/
structure Enrollment.Accepted (e : Enrollment) : Prop where
  packable : e.Packable
  transformCount : e.transformCount = e.relations.length
  edges : ∀ edge ∈ e.groupEdges, edge < e.relations.length

lemma safe_body : Safe 0 unpackBody Enrollment.Accepted := by
  refine safe_header.bind₀ fun header sound => ?_
  have limit : subtemplateRecordLimit = 120 := rfl
  have short := sound.recordLimit
  refine ((safe_subtemplate (by omega)).times header.subtemplateCount).bind₀
    fun subtemplates ⟨length, packable⟩ => ?_
  have started : RelationTable.Sound ⟨emptyRelations header.relationCount, []⟩
      header.relationCount := ⟨by simp [emptyRelations], by simp⟩
  refine (Safe.whileTag (fun table sound => safe_relation sound) started).bind₀
    fun table tabled => ?_
  refine (safe_container _).bind₀ fun _ _ => (Safe.require _).bind₀ fun _ _ =>
    (safe_container _).bind₀ fun matcherState inside => (Safe.require _).bind₀ fun _ _ =>
    Safe.finish.bind₀ fun _ _ =>
    (Safe.within inside (safe_matcherBody sound.count sound.capacity)).bind₀
      fun matcher scheduled => Safe.pure ?_
  refine ⟨⟨?_, sound.capacity, short, packable, ?_, ?_⟩, tabled.length.symm, ?_⟩
  · exact length.trans_le sound.count
  · show table.relations.length ≤ subtemplates.length * (subtemplates.length + 1) / 2
    rw [tabled.length, length]
    exact sound.relations
  · show Scheduled _ subtemplates.length header.capacity
    rw [length]
    exact scheduled
  · intro edge listed
    rw [tabled.length]
    exact tabled.edges edge listed

lemma packedFrame_cases (data : List UInt8) :
    packedFrame data = .error .rejected ∨
      packedFrame data = .ok ⟨data.drop 10, data.length - 10, 0⟩ ∧ 10 ≤ data.length := by
  unfold packedFrame
  by_cases small : data.length < 10
  · exact .inl (if_pos small)
  · have loads : ∀ start count, start + count ≤ 10 →
        load (data.drop start) count = .ok ((data.drop start).take count) := by
      intro start count fits
      rw [load, if_pos (by rw [List.length_drop]; omega)]
    have magic := loads 0 1 (by decide)
    rw [List.drop_zero] at magic
    rw [if_neg small, loads 1 4 (by decide), loads 6 4 (by decide), magic, loads 5 1 (by decide)]
    simp only [Bind.bind, Except.bind]
    split
    · exact .inl rfl
    · exact .inr ⟨rfl, by omega⟩

/-- Unpacking rejects or accepts; it never reads outside its input and never runs on. -/
theorem unpack_accepts (data : List UInt8) :
    unpack data = .error .rejected ∨ ∃ e, unpack data = .ok e ∧ e.Accepted := by
  rcases packedFrame_cases data with rejected | ⟨framed, long⟩
  · left
    simp only [unpack, rejected]
  · have inside : Cursor.Within ⟨data.drop 10, data.length - 10, 0⟩ :=
      ⟨Nat.zero_le _, by rw [List.length_drop]⟩
    have safe := safe_body _ inside
    cases run : unpackBody ⟨data.drop 10, data.length - 10, 0⟩ with
    | error failure =>
      rw [run] at safe
      left
      simp only [unpack, framed, run]
      exact congrArg _ safe
    | ok pair =>
      rw [run] at safe
      right
      exact ⟨pair.1, by simp only [unpack, framed, run], safe.1⟩

/-- Every byte string is rejected or gives an enrollment within its bounds. -/
theorem unpack_total (data : List UInt8) :
    unpack data = .error .rejected ∨ ∃ e, unpack data = .ok e ∧
      e.count ≤ e.capacity ∧ e.capacity ≤ enrollmentCapacity ∧
      e.recordLimit ≤ subtemplateRecordLimit ∧
      (∀ subtemplate ∈ e.subtemplates, subtemplate.records.length ≤ e.recordLimit ∧
        subtemplate.activeCount ≤ subtemplate.records.length ∧
        subtemplate.lineageIndex < e.capacity) ∧
      ((List.range e.count).map fun schedule => (e.orderAt schedule).toNat).Perm
        (List.range e.count) ∧
      (∀ schedule, e.count ≤ schedule → schedule < e.capacity →
        e.orderAt schedule = maxUInt32) ∧
      ∀ edge ∈ e.groupEdges, edge < e.relations.length := by
  rcases unpack_accepts data with rejected | ⟨e, accepted, holds⟩
  · exact .inl rejected
  · have packable := holds.packable
    refine .inr ⟨e, accepted, packable.count, packable.capacity, packable.recordLimit,
      fun subtemplate listed => ?_, packable.scheduled.perm, packable.scheduled.empty, holds.edges⟩
    have each := packable.subtemplates subtemplate listed
    exact ⟨each.records, each.active, each.lineage⟩

lemma accepted_of_unpack {data : List UInt8} {e : Enrollment} (h : unpack data = .ok e) :
    e.Accepted := by
  rcases unpack_accepts data with rejected | ⟨e', accepted, holds⟩
  · rw [rejected] at h
    cases h
  · rw [accepted] at h
    cases h
    exact holds

end GoodixSpi.Chicago
