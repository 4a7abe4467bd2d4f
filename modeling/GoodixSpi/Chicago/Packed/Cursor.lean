import GoodixSpi.Lib.ByteReader
import GoodixSpi.Chicago.Enrollment.State

/-! The tagged fields of the packed template: what is appended for each and how the
packed cursor reads it back. -/

namespace GoodixSpi.Chicago

open ByteReader

/-! ### Appending -/

def packedAppendU32 (value : UInt32) : List UInt8 := LittleEndian.bytes value

def packedAppendScalar (tag : UInt8) (value : UInt32) : List UInt8 :=
  tag :: packedAppendU32 value

def packedAppendBlob (tag : UInt8) (data : List UInt8) : List UInt8 :=
  tag :: packedAppendU32 (UInt32.ofNat data.length) ++ data

/-- A body behind its tag and its length, which the source patches in afterwards. -/
def packedContainer (tag : UInt8) (body : List UInt8) : List UInt8 :=
  tag :: packedAppendU32 (UInt32.ofNat body.length) ++ body

def packedMapBody (data : MetricMap) : List UInt8 :=
  packedAppendScalar 0xc1 40 ++ packedAppendScalar 0xc2 32 ++
    packedAppendScalar 0xc3 maxUInt32 ++ packedAppendScalar 0xc4 8 ++
    packedAppendBlob 0xc5 data.toList

def packedAppendMap (tag : UInt8) (data : MetricMap) : List UInt8 :=
  packedContainer tag (packedMapBody data)

/-! ### Reading -/

def packedCursorTake (size : Nat) : Reader (List UInt8) := take size

def packedCursorU32 : Reader UInt32 := do
  let bytes ← packedCursorTake 4
  let littleEndian ← loadAt bytes 4
  return LittleEndian.word littleEndian

def packedCursorTag (expectedTag : UInt8) : Reader Unit := do
  let pointer ← packedCursorTake 1
  let tag ← loadAt pointer 1
  require (tag == [expectedTag])

def packedCursorScalar (expectedTag : UInt8) : Reader UInt32 := do
  packedCursorTag expectedTag
  packedCursorU32

/-- A scalar that must have the given value. -/
def packedCursorExpect (expectedTag : UInt8) (expected : UInt32) : Reader Unit := do
  let value ← packedCursorScalar expectedTag
  require (value == expected)

def packedCursorBlob (expectedTag : UInt8) : Reader (List UInt8 × UInt32) := do
  packedCursorTag expectedTag
  let size ← packedCursorU32
  let value ← packedCursorTake size.toNat
  return (value, size)

def packedCursorContainer (expectedTag : UInt8) : Reader Cursor := do
  let blob ← packedCursorBlob expectedTag
  return ⟨blob.1, blob.2.toNat, 0⟩

/-- `memcpy` into a fixed array. -/
def arrayOfBytes (length : Nat) (bytes : List UInt8) : Vector UInt8 length :=
  Vector.ofFn fun index => bytes.getD index 0

def packedCursorMapBody : Reader MetricMap := do
  packedCursorExpect 0xc1 40
  packedCursorExpect 0xc2 32
  packedCursorExpect 0xc3 maxUInt32
  packedCursorExpect 0xc4 8
  let blob ← packedCursorBlob 0xc5
  require (blob.2 == UInt32.ofNat metricMapPackedBytes)
  finish
  let bits ← loadAt blob.1 blob.2.toNat
  return arrayOfBytes metricMapPackedBytes bits

def packedCursorMap (expectedTag : UInt8) : Reader MetricMap := do
  let body ← packedCursorContainer expectedTag
  within body packedCursorMapBody

/-! ### Lengths -/

@[simp] lemma length_packedAppendU32 (value : UInt32) : (packedAppendU32 value).length = 4 := rfl

@[simp] lemma length_packedAppendScalar (tag : UInt8) (value : UInt32) :
    (packedAppendScalar tag value).length = 5 := rfl

@[simp] lemma length_packedAppendBlob (tag : UInt8) (data : List UInt8) :
    (packedAppendBlob tag data).length = data.length + 5 := by
  simp only [packedAppendBlob, List.length_append, List.length_cons, length_packedAppendU32]
  omega

@[simp] lemma length_packedContainer (tag : UInt8) (body : List UInt8) :
    (packedContainer tag body).length = body.length + 5 :=
  length_packedAppendBlob tag body

@[simp] lemma length_packedMapBody (data : MetricMap) : (packedMapBody data).length = 185 := by
  simp [packedMapBody, metricMapPackedBytes]

@[simp] lemma length_packedAppendMap (tag : UInt8) (data : MetricMap) :
    (packedAppendMap tag data).length = 190 := by
  simp [packedAppendMap]

/-! ### Fields read back -/

variable {β : Type} {more rest : List UInt8} {result : β}

lemma reads_u32 (value : UInt32) (more : List UInt8) :
    Reads packedCursorU32 (packedAppendU32 value) value more := by
  unfold packedCursorU32 packedCursorTake
  rw [← List.append_nil (packedAppendU32 value)]
  refine Reads.take_bind (packedAppendU32 value) fun pointer h => ?_
  have loaded : load pointer 4 = .ok (packedAppendU32 value) := load_of_prefix _ h
  refine Reads.bind_nil (Reads.loadAt loaded _) ?_
  rw [packedAppendU32, LittleEndian.word_bytes]
  exact Reads.pure value more

lemma reads_tag (tag : UInt8) (more : List UInt8) :
    Reads (packedCursorTag tag) [tag] () more := by
  unfold packedCursorTag packedCursorTake
  rw [← List.append_nil [tag]]
  refine Reads.take_bind [tag] fun pointer h => ?_
  have loaded : load pointer 1 = .ok [tag] := load_of_prefix _ h
  exact Reads.bind_nil (Reads.loadAt loaded _) (Reads.require (by simp) _)

lemma reads_scalar (tag : UInt8) (value : UInt32) (more : List UInt8) :
    Reads (packedCursorScalar tag) (packedAppendScalar tag value) value more :=
  Reads.bind_cons (reads_tag tag _) (reads_u32 value more)

lemma reads_expect (tag : UInt8) (value : UInt32) (more : List UInt8) :
    Reads (packedCursorExpect tag value) (packedAppendScalar tag value) () more := by
  unfold packedCursorExpect
  rw [← List.append_nil (packedAppendScalar tag value)]
  exact Reads.bind (reads_scalar tag value _) (Reads.require (by simp) _)

/-- The blob's pointer stands at the data; its size is the data's length. -/
lemma reads_blob_bind {tag : UInt8} {data : List UInt8} {next : List UInt8 × UInt32 → Reader β}
    (small : data.length < 2 ^ 32)
    (h : ∀ pointer : List UInt8, pointer.take data.length = data →
      Reads (next (pointer, UInt32.ofNat data.length)) rest result more) :
    Reads (packedCursorBlob tag >>= next) (packedAppendBlob tag data ++ rest) result more := by
  have size : (UInt32.ofNat data.length).toNat = data.length := by
    rw [UInt32.toNat_ofNat']
    exact Nat.mod_eq_of_lt small
  have shape : packedCursorBlob tag >>= next = (do
      packedCursorTag tag
      let size ← packedCursorU32
      let value ← packedCursorTake size.toNat
      next (value, size)) := by
    simp only [packedCursorBlob, bind_assoc, pure_bind]
  rw [shape, packedAppendBlob, List.cons_append, List.cons_append, List.append_assoc]
  refine Reads.bind_cons (reads_tag tag _) ?_
  refine Reads.bind (reads_u32 _ _) ?_
  rw [size]
  exact Reads.take_bind data h

/-- A container's body is read by itself. -/
lemma reads_container {tag : UInt8} {body : List UInt8} {reader : Reader β}
    (small : body.length < 2 ^ 32) (h : Reads reader body result []) (more : List UInt8) :
    Reads (packedCursorContainer tag >>= fun cursor => within cursor reader)
      (packedContainer tag body) result more := by
  have size : (UInt32.ofNat body.length).toNat = body.length := by
    rw [UInt32.toNat_ofNat']
    exact Nat.mod_eq_of_lt small
  have shape : (packedCursorContainer tag >>= fun cursor => within cursor reader) =
      packedCursorBlob tag >>= fun blob => within ⟨blob.1, blob.2.toNat, 0⟩ reader := by
    simp only [packedCursorContainer, bind_assoc, pure_bind]
  rw [shape, ← List.append_nil (packedContainer tag body)]
  refine reads_blob_bind small fun pointer stands => ?_
  simp only [size]
  have long : body.length ≤ pointer.length := by
    have := congrArg List.length stands
    rw [List.length_take] at this
    omega
  have inside : Cursor.Within ⟨pointer, body.length, 0⟩ := ⟨Nat.zero_le _, long⟩
  exact Reads.within inside stands h more

lemma arrayOfBytes_toList {length : Nat} (array : Vector UInt8 length) :
    arrayOfBytes length array.toList = array := by
  ext index h
  simp [arrayOfBytes]

lemma reads_mapBody (data : MetricMap) : Reads packedCursorMapBody (packedMapBody data) data [] := by
  have length : data.toList.length = metricMapPackedBytes := by simp
  unfold packedCursorMapBody packedMapBody
  simp only [List.append_assoc]
  refine Reads.bind (reads_expect _ _ _) <| Reads.bind (reads_expect _ _ _) <|
    Reads.bind (reads_expect _ _ _) <| Reads.bind (reads_expect _ _ _) ?_
  rw [← List.append_nil (packedAppendBlob 0xc5 data.toList)]
  refine reads_blob_bind (by rw [length]; decide) fun pointer stands => ?_
  have loaded := load_of_prefix _ stands
  rw [length] at loaded ⊢
  refine Reads.bind_nil (Reads.require rfl _) <| Reads.bind_nil Reads.finish ?_
  refine Reads.bind_nil (Reads.loadAt loaded _) ?_
  rw [arrayOfBytes_toList]
  exact Reads.pure data []

lemma reads_map (tag : UInt8) (data : MetricMap) (more : List UInt8) :
    Reads (packedCursorMap tag) (packedAppendMap tag data) data more :=
  reads_container (by rw [length_packedMapBody]; decide) (reads_mapBody data) more

/-! ### Arbitrary input -/

lemma safe_u32 : Safe 4 packedCursorU32 fun _ => True :=
  (Safe.take 4).bind fun _ long => (Safe.loadAt long).bind₀ fun _ _ => Safe.pure trivial

lemma safe_tag (tag : UInt8) : Safe 1 (packedCursorTag tag) fun _ => True :=
  (Safe.take 1).bind fun _ long => (Safe.loadAt long).bind₀ fun _ _ =>
    (Safe.require _).weaken (Nat.le_refl _) fun _ _ => trivial

lemma safe_scalar (tag : UInt8) : Safe 5 (packedCursorScalar tag) fun _ => True :=
  (safe_tag tag).bind fun _ _ => safe_u32

lemma safe_expect (tag : UInt8) (value : UInt32) :
    Safe 5 (packedCursorExpect tag value) fun _ => True :=
  (safe_scalar tag).bind fun _ _ => (Safe.require _).weaken (Nat.le_refl _) fun _ _ => trivial

lemma safe_blob (tag : UInt8) :
    Safe 5 (packedCursorBlob tag) fun blob => blob.2.toNat ≤ blob.1.length := by
  refine (safe_tag tag).bind fun _ _ => safe_u32.bind_last fun size _ => ?_
  exact (Safe.take size.toNat).bind₀ fun pointer long => Safe.pure long

lemma safe_container (tag : UInt8) : Safe 5 (packedCursorContainer tag) Cursor.Within :=
  (safe_blob tag).bind_last fun _ long => Safe.pure ⟨Nat.zero_le _, long⟩

lemma safe_mapBody : Safe 0 packedCursorMapBody fun _ => True := by
  refine (safe_expect _ _).bind₀ fun _ _ => (safe_expect _ _).bind₀ fun _ _ =>
    (safe_expect _ _).bind₀ fun _ _ => (safe_expect _ _).bind₀ fun _ _ =>
    (safe_blob _).bind₀ fun blob long => (Safe.require _).bind₀ fun _ _ =>
    Safe.finish.bind₀ fun _ _ => ?_
  exact (Safe.loadAt long).bind₀ fun _ _ => Safe.pure trivial

lemma safe_map (tag : UInt8) : Safe 5 (packedCursorMap tag) fun _ => True :=
  (safe_container tag).bind_last fun _ inside => Safe.within inside safe_mapBody

end GoodixSpi.Chicago
