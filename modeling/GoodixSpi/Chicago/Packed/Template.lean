import GoodixSpi.Chicago.Packed.Record
import GoodixSpi.Chicago.Enrollment.MetricData
import GoodixSpi.Chicago.Enrollment.RelationMask

/-! The packed template: `pack` writes an enrollment, `unpack` reads one from arbitrary
bytes. -/

namespace GoodixSpi.Chicago

open ByteReader

def packedCrcByte (crc : UInt32) (byte : UInt8) : UInt32 :=
  (List.range 8).foldl (fun crc _ => (crc >>> 1) ^^^ (0xedb88320 &&& (0 - (crc &&& 1))))
    (crc ^^^ byte.toUInt32)

def packedCrc32 (data : List UInt8) : UInt32 := ~~~(data.foldl packedCrcByte maxUInt32)

/-! ### Packing -/

def packedAppendResolution (resolution : UInt32) : List UInt8 :=
  if resolution ≠ 0 then packedAppendScalar 0xc7 resolution else []

def packedRecords (records : List FeatureRecord) : List UInt8 :=
  0xb4 :: packedAppendU32 (UInt32.ofNat (records.length * 32)) ++
    records.flatMap packedAppendRecord

def packedSubtemplateBody (subtemplate : Subtemplate) : List UInt8 :=
  packedAppendMap 0xb2 subtemplate.metricData.primary ++
  packedAppendMap 0xcf subtemplate.metricData.secondary ++
  packedAppendBlob 0xce subtemplate.metricData.coarseMask.toList ++
  packedAppendMap 0xcd subtemplate.metricData.validity ++
  packedAppendScalar 0xb3 (UInt32.ofNat subtemplate.records.length) ++
  packedRecords subtemplate.records ++
  packedAppendScalar 0xb5 subtemplate.groupState ++
  packedAppendScalar 0xb6 subtemplate.relationBase ++
  packedAppendScalar 0xb7 (UInt32.ofNat subtemplate.activeCount) ++
  packedAppendScalar 0xb8 subtemplate.quality ++
  packedAppendScalar 0xb9 subtemplate.coverage ++
  packedAppendScalar 0xba subtemplate.studyState ++
  packedAppendScalar 0xbb subtemplate.studyFlags ++
  packedAppendScalar 0xbc (UInt32.ofNat subtemplate.lineageIndex) ++
  packedAppendScalar 0xbd subtemplate.replacementCount ++
  packedAppendScalar 0xbe subtemplate.studyValueA ++
  packedAppendScalar 0xc0 subtemplate.studyValueB ++
  packedAppendResolution subtemplate.metricData.packedResolution

def packedAppendSubtemplate (subtemplate : Subtemplate) : List UInt8 :=
  packedContainer 0x95 (packedSubtemplateBody subtemplate)

def packedRelationBody (index : Nat) (relation : Relation) : List UInt8 :=
  packedAppendScalar 0xe3 (UInt32.ofNat index) ++
  packedAppendScalar 0xe1 relation.inlierCount.toUInt32 ++
  packedAppendScalar 0xe4 (relation.transform.get 0).toUInt32 ++
  packedAppendScalar 0xe5 (relation.transform.get 1).toUInt32 ++
  packedAppendScalar 0xe6 (relation.transform.get 2).toUInt32 ++
  packedAppendScalar 0xe7 (relation.transform.get 3).toUInt32 ++
  packedAppendScalar 0xe8 (relation.transform.get 4).toUInt32 ++
  packedAppendScalar 0xe9 (relation.transform.get 5).toUInt32

def packedAppendRelation (index : Nat) (relation : Relation) : List UInt8 :=
  packedContainer 0x96 (packedRelationBody index relation)

/-- `"Milan_v_3.02.00.15"`, padded to 64 bytes. -/
def packedVersion : List UInt8 :=
  "Milan_v_3.02.00.15".toList.map (fun c => UInt8.ofNat c.toNat) ++ List.replicate 46 0

def packedSchedulerBody (grouped : Nat) : List UInt8 :=
  packedAppendScalar 0xf2 (if grouped > 1 then 0 else maxUInt32) ++
  packedAppendScalar 0xf3 maxUInt32 ++
  packedAppendScalar 0xf4 maxUInt32 ++
  packedAppendScalar 0xf5 (if grouped > 1 then 1 else 0)

namespace Enrollment

variable (self : Enrollment)

def packedMatcherBody : List UInt8 :=
  packedAppendBlob 0xa1 (self.matchOrder.toList.flatMap packedAppendU32) ++
  packedAppendScalar 0xa2 self.matcherActiveIndex ++
  packedAppendBlob 0xa3 packedVersion ++
  packedAppendBlob 0xa4 (List.replicate 1024 0) ++
  packedAppendScalar 0xa5 self.matcherValueA ++
  packedAppendScalar 0xa6 self.matcherValueB ++
  packedAppendScalar 0xa7 self.matcherValueC ++
  packedAppendScalar 0xa8 self.matcherValueD

def packedAppendMatcherState : List UInt8 := packedContainer 0x94 self.packedMatcherBody

def packedHeader : List UInt8 :=
  packedAppendScalar 0x81 0x002e14ef ++
  packedAppendScalar 0x88 0x002e14ef ++
  packedAppendScalar 0x89 0x002df160 ++
  packedAppendScalar 0x98 24 ++
  packedAppendScalar 0x9a 64 ++
  packedAppendScalar 0x9b 80 ++
  packedAppendScalar 0x91 (UInt32.ofNat self.count) ++
  packedAppendScalar 0x97 (UInt32.ofNat self.capacity) ++
  packedAppendScalar 0x92 (UInt32.ofNat self.relations.length) ++
  packedAppendScalar 0x9e (UInt32.ofNat self.recordLimit) ++
  packedAppendScalar 0x9f (UInt32.ofNat self.recordLimit) ++
  packedAppendScalar 0x9c 1 ++
  packedAppendScalar 0x9d 1 ++
  packedAppendScalar 0xfa 0 ++
  packedAppendScalar 0xfb 0

def groupedCount : Nat := self.subtemplates.countP fun subtemplate => subtemplate.groupState == 1

/-- The relations the mask selects, each with its slot. -/
def serializedRelations : List (Relation × Nat) :=
  self.buildSerializedRelationMask.slots.filterMap fun slot =>
    self.relations[slot]?.map fun relation => (relation, slot)

def packedBody : List UInt8 :=
  self.packedHeader ++
  self.subtemplates.flatMap packedAppendSubtemplate ++
  self.serializedRelations.flatMap (fun entry => packedAppendRelation entry.2 entry.1) ++
  packedContainer 0x93 (packedSchedulerBody self.groupedCount) ++
  self.packedAppendMatcherState

/-- The body behind its CRC and its length, both patched in at the end. -/
def packedTemplate : List UInt8 :=
  0x87 :: packedAppendU32 (packedCrc32 self.packedBody) ++
    0x86 :: packedAppendU32 (UInt32.ofNat self.packedBody.length) ++ self.packedBody

def getPackedSize : Nat :=
  1443 + (self.subtemplates.map fun subtemplate =>
      subtemplate.records.length * 32 + 685 +
        if subtemplate.metricData.packedResolution ≠ 0 then 5 else 0).sum +
    self.buildSerializedRelationMask.selected * 45

def pack : Except GError (List UInt8) :=
  if self.subtemplates.any fun subtemplate => !subtemplate.hasMetricData then
    .error ⟨.invalidData, "gdix51c0: cannot pack a subtemplate without metric data"⟩
  else if self.packedTemplate.length ≠ self.getPackedSize then
    .error ⟨.invalidData, "gdix51c0: packed template size mismatch " ++
      toString self.packedTemplate.length ++ "/" ++ toString self.getPackedSize⟩
  else .ok self.packedTemplate

end Enrollment

/-! ### Unpacking -/

structure PackedHeader where
  subtemplateCount : Nat
  capacity : Nat
  relationCount : Nat
  recordLimit : Nat

def unpackHeader : Reader PackedHeader := do
  packedCursorExpect 0x81 0x002e14ef
  packedCursorExpect 0x88 0x002e14ef
  packedCursorExpect 0x89 0x002df160
  packedCursorExpect 0x98 24
  packedCursorExpect 0x9a 64
  packedCursorExpect 0x9b 80
  let subtemplateCount ← packedCursorScalar 0x91
  let capacity ← packedCursorScalar 0x97
  let relationCount ← packedCursorScalar 0x92
  let recordLimit ← packedCursorScalar 0x9e
  packedCursorExpect 0x9f recordLimit
  packedCursorExpect 0x9c 1
  packedCursorExpect 0x9d 1
  packedCursorExpect 0xfa 0
  packedCursorExpect 0xfb 0
  require (subtemplateCount ≤ capacity)
  require (capacity.toNat ≤ enrollmentCapacity)
  require (recordLimit.toNat ≤ subtemplateRecordLimit)
  require (relationCount ≤ subtemplateCount * (subtemplateCount + 1) / 2)
  return ⟨subtemplateCount.toNat, capacity.toNat, relationCount.toNat, recordLimit.toNat⟩

/-- Decode `count` records standing one behind the other. -/
def decodeRecords : List UInt8 → Nat → Reader (List FeatureRecord)
  | _, 0 => pure []
  | pointer, count + 1 => do
    let packed ← loadAt pointer packedRecordBytes
    let rest ← decodeRecords (pointer.drop packedRecordBytes) count
    return packedDecodeRecord packed :: rest

/-- Records from the active count on are background. -/
def classifyForeground (activeCount : Nat) (records : List FeatureRecord) : List FeatureRecord :=
  records.mapIdx fun index record =>
    if activeCount ≤ index then { record with foreground := 1 } else record

def unpackResolution : Reader UInt32 := do
  if ← peekIs 0xc7 then packedCursorScalar 0xc7 else return 0

def unpackSubtemplateBody (capacity recordLimit : Nat) : Reader Subtemplate := do
  let primary ← packedCursorMap 0xb2
  let secondary ← packedCursorMap 0xcf
  let coarse ← packedCursorBlob 0xce
  require (coarse.2 == UInt32.ofNat metricMaskPackedBytes)
  let validity ← packedCursorMap 0xcd
  let recordCount ← packedCursorScalar 0xb3
  require (recordCount.toNat ≤ recordLimit)
  let records ← packedCursorBlob 0xb4
  require (records.2 == recordCount * 32)
  let coarseBytes ← loadAt coarse.1 coarse.2.toNat
  let decoded ← decodeRecords records.1 recordCount.toNat
  let groupState ← packedCursorScalar 0xb5
  let relationBase ← packedCursorScalar 0xb6
  let activeCount ← packedCursorScalar 0xb7
  require (activeCount ≤ recordCount)
  let quality ← packedCursorScalar 0xb8
  let coverage ← packedCursorScalar 0xb9
  let studyState ← packedCursorScalar 0xba
  let studyFlags ← packedCursorScalar 0xbb
  let serializedIndex ← packedCursorScalar 0xbc
  require (serializedIndex.toNat < capacity)
  let replacementCount ← packedCursorScalar 0xbd
  let studyValueA ← packedCursorScalar 0xbe
  let studyValueB ← packedCursorScalar 0xc0
  let packedResolution ← unpackResolution
  finish
  let coarseMask := arrayOfBytes metricMaskPackedBytes coarseBytes
  return {
    activeCount := activeCount.toNat
    quality, coverage
    records := classifyForeground activeCount.toNat decoded
    hasMetricData := true
    metricData := {
      primary, secondary, validity, coarseMask
      positionMap := metricDataBuildPositionMap coarseMask
      packedResolution }
    groupState, relationBase, studyState, studyFlags
    lineageIndex := serializedIndex.toNat
    replacementCount, studyValueA, studyValueB }

def unpackSubtemplate (capacity recordLimit : Nat) : Reader Subtemplate := do
  let body ← packedCursorContainer 0x95
  within body (unpackSubtemplateBody capacity recordLimit)

/-- Every slot starts as a sentinel; only the first one has a transform. -/
def emptyRelations (relationCount : Nat) : List Relation :=
  (List.range relationCount).map fun index =>
    ⟨-1, if index = 0 then identityGroupTransform else Vector.replicate 6 0⟩

structure RelationTable where
  relations : List Relation
  groupEdges : List Nat

def unpackRelationBody (relationCount : Nat) : Reader (Relation × Nat) := do
  let relationIndex ← packedCursorScalar 0xe3
  require (relationIndex.toNat < relationCount)
  let inlierCount ← packedCursorScalar 0xe1
  let a ← packedCursorScalar 0xe4
  let b ← packedCursorScalar 0xe5
  let x ← packedCursorScalar 0xe6
  let c ← packedCursorScalar 0xe7
  let d ← packedCursorScalar 0xe8
  let y ← packedCursorScalar 0xe9
  finish
  return (⟨inlierCount.toInt32, #v[a.toInt32, b.toInt32, x.toInt32, c.toInt32, d.toInt32,
    y.toInt32]⟩, relationIndex.toNat)

def RelationTable.store (table : RelationTable) (entry : Relation × Nat) : RelationTable :=
  ⟨table.relations.set entry.2 entry.1, table.groupEdges ++ [entry.2]⟩

def unpackRelation (relationCount : Nat) (table : RelationTable) : Reader RelationTable := do
  let body ← packedCursorContainer 0x96
  let entry ← within body (unpackRelationBody relationCount)
  return table.store entry

/-- The first `count` little-endian words behind a pointer. -/
def loadWords : List UInt8 → Nat → Reader (List UInt32)
  | _, 0 => pure []
  | pointer, count + 1 => do
    let littleEndian ← loadAt pointer 4
    let rest ← loadWords (pointer.drop 4) count
    return LittleEndian.word littleEndian :: rest

def orderIsPermutation (order : List UInt32) (subtemplateCount : Nat) : Bool :=
  (List.range subtemplateCount).all fun schedule =>
    (order.getD schedule maxUInt32).toNat < subtemplateCount &&
      (List.range schedule).all fun previous =>
        order.getD previous maxUInt32 != order.getD schedule maxUInt32

def orderEndsEmpty (order : List UInt32) (subtemplateCount capacity : Nat) : Bool :=
  (List.range capacity).all fun schedule =>
    schedule < subtemplateCount || order.getD schedule maxUInt32 == maxUInt32

def loadedMatchOrder (order : List UInt32) : MatchOrder :=
  Vector.ofFn fun schedule => order.getD schedule maxUInt32

structure MatcherState where
  matchOrder : MatchOrder
  activeIndex : UInt32
  valueA : UInt32
  valueB : UInt32
  valueC : UInt32
  valueD : UInt32

def unpackMatcherBody (subtemplateCount capacity : Nat) : Reader MatcherState := do
  let matcherOrder ← packedCursorBlob 0xa1
  require (matcherOrder.2.toNat == 4 * enrollmentCapacity)
  let order ← loadWords matcherOrder.1 capacity
  require (orderIsPermutation order subtemplateCount)
  require (orderEndsEmpty order subtemplateCount capacity)
  let activeIndex ← packedCursorScalar 0xa2
  let version ← packedCursorBlob 0xa3
  require (version.2 == 64)
  let zeroes ← packedCursorBlob 0xa4
  require (zeroes.2 == 1024)
  let valueA ← packedCursorScalar 0xa5
  let valueB ← packedCursorScalar 0xa6
  let valueC ← packedCursorScalar 0xa7
  let valueD ← packedCursorScalar 0xa8
  finish
  return ⟨loadedMatchOrder order, activeIndex, valueA, valueB, valueC, valueD⟩

def unpackBody : Reader Enrollment := do
  let header ← unpackHeader
  let subtemplates ← times (unpackSubtemplate header.capacity header.recordLimit)
    header.subtemplateCount
  let table ← whileTag 0x96 (unpackRelation header.relationCount)
    ⟨emptyRelations header.relationCount, []⟩
  let schedulerState ← packedCursorContainer 0x93
  require (schedulerState.size == 20)
  let matcherState ← packedCursorContainer 0x94
  require (matcherState.size == 1328)
  finish
  let matcher ← within matcherState (unpackMatcherBody header.subtemplateCount header.capacity)
  return { Enrollment.new with
    capacity := header.capacity
    recordLimit := header.recordLimit
    subtemplates
    relations := table.relations
    groupEdges := table.groupEdges
    transformCount := header.relationCount
    matchOrder := matcher.matchOrder
    matcherActiveIndex := matcher.activeIndex
    matcherValueA := matcher.valueA
    matcherValueB := matcher.valueB
    matcherValueC := matcher.valueC
    matcherValueD := matcher.valueD }

/-- The CRC and the length of the frame are checked before anything else. -/
def packedFrame (data : List UInt8) : Except Failure Cursor :=
  if data.length < 10 then .error .rejected
  else do
    let storedCrc ← load (data.drop 1) 4
    let declaredSize ← load (data.drop 6) 4
    let magic ← load data 1
    let sizeTag ← load (data.drop 5) 1
    if magic ≠ [0x87] ∨ sizeTag ≠ [0x86] ∨
        (LittleEndian.word declaredSize).toNat ≠ data.length - 10 ∨
        LittleEndian.word storedCrc ≠ packedCrc32 (data.drop 10) then .error .rejected
    else .ok ⟨data.drop 10, data.length - 10, 0⟩

/-- `rejected` stands for `NULL` with "gdix51c0: invalid packed Chicago template". -/
def unpack (data : List UInt8) : Except Failure Enrollment :=
  match packedFrame data with
  | .error failure => .error failure
  | .ok cursor =>
    match unpackBody cursor with
    | .error failure => .error failure
    | .ok (self, _) => .ok self

end GoodixSpi.Chicago
