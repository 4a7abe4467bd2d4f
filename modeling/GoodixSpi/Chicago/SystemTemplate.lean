import GoodixSpi.Lib.Buffer
import GoodixSpi.Lib.LittleEndian
import GoodixSpi.Chicago.Enrollment.State
import Mathlib.Data.Vector.Basic

/-! The system-template envelope around a packed template. `g_malloc` gives exactly the bytes that
are asked for, and writing past them is a failure of the model. -/

namespace GoodixSpi.Chicago

namespace SystemTemplate

abbrev typeV1 : UInt32 := 0xffdffc01
abbrev typeV2 : UInt32 := 0xffdffc02
abbrev prefixLen : UInt32 := 8
abbrev v1RandomLen : UInt32 := 32
abbrev v1CrcLen : UInt32 := 4
abbrev v1TrailerLen : UInt32 := v1RandomLen + v1CrcLen
abbrev v2HeaderLen : UInt32 := 104

/-- One bit of `goodix_crc32_mpeg2`. -/
def crcBit (crc : UInt32) : UInt32 :=
  (crc <<< (1 : UInt32)) ^^^ (0x04c11db7 &&& -(crc >>> (31 : UInt32)))

/-- `goodix_crc32_mpeg2`. -/
def crc32Mpeg2 (data : List UInt8) : UInt32 :=
  data.foldl (fun crc byte => (List.range 8).foldl (fun crc _ => crcBit crc)
    (crc ^^^ (byte.toUInt32 <<< (24 : UInt32)))) maxUInt32

/-- `template_v1_crc` reads from a pointer; the count is narrowed to 16 bits first. -/
def templateV1Crc (payload : List UInt8) (payloadWithoutCrcLen : Nat) : UInt32 :=
  let officialLen := UInt16.ofNat payloadWithoutCrcLen
  crc32Mpeg2 (payload.take officialLen.toNat)

/-- `"%08x"`. -/
def hex8 (value : UInt32) : String :=
  String.ofList ((List.range 8).reverse.map fun digit =>
    Nat.digitChar (value.toNat / 16 ^ digit % 16))

/-- `GoodixChicagoTemplateView`; `random` is null in a V2 template. -/
structure TemplateView where
  type : UInt32
  declaredPayloadLen : UInt32
  chicagoPayload : List UInt8
  random : Option (List UInt8)
  storedCrc : UInt32
deriving DecidableEq

def TemplateView.zero : TemplateView := ⟨0, 0, [], none, 0⟩

/-- The V1 branch of the parser, with the length of the trailer checked. -/
def parseV1 (data : List UInt8) (view : TemplateView) : TemplateView × Except GError Unit :=
  let payload := data.drop prefixLen.toNat
  let innerLen := (view.declaredPayloadLen - v1TrailerLen).toNat
  let random := payload.drop innerLen
  let storedCrc := LittleEndian.word (random.drop v1RandomLen.toNat)
  let expectedCrc := templateV1Crc payload (view.declaredPayloadLen - v1CrcLen).toNat
  if storedCrc ≠ expectedCrc then
    (.zero, .error ⟨.invalidData, "gdix51c0: Chicago V1 CRC mismatch: stored=0x" ++
      hex8 storedCrc ++ " expected=0x" ++ hex8 expectedCrc⟩)
  else
    ({ view with
      chicagoPayload := payload.take innerLen
      random := some (random.take v1RandomLen.toNat)
      storedCrc }, .ok ())

/-- `goodix_chicago_template_parse`, with what it leaves in `out_view`. -/
def parse (data : List UInt8) : TemplateView × Except GError Unit :=
  if data.length < prefixLen.toNat then
    (.zero, .error ⟨.invalidData, "gdix51c0: Chicago system template is too short: " ++
      toString data.length ++ " bytes"⟩)
  else
    let type := LittleEndian.word data
    let declaredPayloadLen := LittleEndian.word (data.drop 4)
    let view : TemplateView := { TemplateView.zero with type, declaredPayloadLen }
    if type ≠ typeV1 ∧ type ≠ typeV2 then
      (.zero, .error ⟨.notSupported, "gdix51c0: unsupported Chicago system template type 0x" ++
        hex8 type⟩)
    else if declaredPayloadLen.toNat ≠ data.length - 8 then
      (.zero, .error ⟨.invalidData, "gdix51c0: Chicago template length mismatch: header=" ++
        toString declaredPayloadLen ++ " actual=" ++ toString (data.length - 8)⟩)
    else if type = typeV1 then
      if declaredPayloadLen < v1TrailerLen then
        (view, .error ⟨.invalidData, "gdix51c0: Chicago V1 template is too short"⟩)
      else parseV1 data view
    else if data.length < v2HeaderLen.toNat then
      (.zero, .error ⟨.invalidData, "gdix51c0: Chicago V2 template is too short"⟩)
    else ({ view with chicagoPayload := data.drop v2HeaderLen.toNat }, .ok ())

/-- How `goodix_chicago_template_wrap_v1` fails: it returns null, or it writes past the envelope
that it allocated. -/
inductive WrapFailure
  | null
  | outOfBounds
deriving DecidableEq

/-- `memcpy` into an allocation. -/
def store (wrapped : List UInt8) (offset : Nat) (block : List UInt8) :
    Except WrapFailure (List UInt8) :=
  if offset + block.length ≤ wrapped.length then .ok (Buffer.write wrapped offset block)
  else .error .outOfBounds

/-- The allocation and the writes of `goodix_chicago_template_wrap_v1`. -/
def fillV1 (totalLen : Nat) (payloadLen : UInt32) (packedTemplate : List UInt8)
    (random : Vector UInt8 32) : Except WrapFailure (List UInt8) := do
  let wrapped := List.replicate totalLen 0
  let wrapped ← store wrapped 0 (LittleEndian.bytes typeV1)
  let wrapped ← store wrapped 4 (LittleEndian.bytes payloadLen)
  let wrapped ← store wrapped prefixLen.toNat packedTemplate
  let wrapped ← store wrapped (prefixLen.toNat + packedTemplate.length) random.toList
  let crc := templateV1Crc (wrapped.drop prefixLen.toNat) (payloadLen - v1CrcLen).toNat
  store wrapped (totalLen - v1CrcLen.toNat) (LittleEndian.bytes crc)

/-- `goodix_chicago_template_wrap_v1`. The sum of prefix and payload is formed in 32 bits before it
is widened. -/
def wrapV1 (packedTemplate : List UInt8) (random : Vector UInt8 32) :
    Except WrapFailure (List UInt8) :=
  if packedTemplate.length > (maxUInt32 - v1TrailerLen).toNat then .error .null
  else
    let payloadLen := UInt32.ofNat (packedTemplate.length + v1TrailerLen.toNat)
    let totalLen := (prefixLen + payloadLen).toNat
    fillV1 totalLen payloadLen packedTemplate random

/-! ### The layout -/

/-- The parts of a V1 template in their order. -/
def envelope (type payloadLen : UInt32) (inner : List UInt8) (random : Vector UInt8 32)
    (crc : UInt32) : List UInt8 :=
  LittleEndian.bytes type ++ (LittleEndian.bytes payloadLen ++
    (inner ++ (random.toList ++ LittleEndian.bytes crc)))

section layout

variable {type payloadLen crc : UInt32} {inner : List UInt8} {random : Vector UInt8 32}

@[simp] lemma length_envelope :
    (envelope type payloadLen inner random crc).length = inner.length + 44 := by
  simp [envelope]
  omega

lemma word_envelope : LittleEndian.word (envelope type payloadLen inner random crc) = type :=
  LittleEndian.word_bytes_append type _

lemma word_drop_envelope :
    LittleEndian.word ((envelope type payloadLen inner random crc).drop 4) = payloadLen :=
  LittleEndian.word_bytes_append payloadLen _

lemma drop_envelope : (envelope type payloadLen inner random crc).drop 8 =
    inner ++ (random.toList ++ LittleEndian.bytes crc) := rfl

end layout

/-- Every string with room for the fields is made of them. -/
lemma exists_envelope {data : List UInt8} (room : 44 ≤ data.length) :
    ∃ inner random crc, data = envelope (LittleEndian.word data)
      (LittleEndian.word (data.drop 4)) inner random crc := by
  obtain ⟨a, b, c, d, e, f, g, h, rest, rfl⟩ : ∃ a b c d e f g h rest,
      data = a :: b :: c :: d :: e :: f :: g :: h :: rest := by
    match data, room with
    | a :: b :: c :: d :: e :: f :: g :: h :: rest, _ => exact ⟨a, b, c, d, e, f, g, h, rest, rfl⟩
  simp only [List.length_cons] at room
  have front : LittleEndian.bytes (LittleEndian.word [a, b, c, d]) = [a, b, c, d] :=
    LittleEndian.bytes_word rfl
  have next : LittleEndian.bytes (LittleEndian.word [e, f, g, h]) = [e, f, g, h] :=
    LittleEndian.bytes_word rfl
  have last : LittleEndian.bytes (LittleEndian.word (rest.drop (rest.length - 4))) =
      rest.drop (rest.length - 4) := LittleEndian.bytes_word (by rw [List.length_drop]; omega)
  have random : ((rest.drop (rest.length - 36)).take 32).length = 32 := by
    rw [List.length_take, List.length_drop]
    omega
  refine ⟨rest.take (rest.length - 36), ⟨((rest.drop (rest.length - 36)).take 32).toArray, random⟩,
    LittleEndian.word (rest.drop (rest.length - 4)), ?_⟩
  have tail : (rest.drop (rest.length - 36)).drop 32 = rest.drop (rest.length - 4) := by
    rw [List.drop_drop]
    congr 1
    omega
  change _ = LittleEndian.bytes (LittleEndian.word [a, b, c, d]) ++
    (LittleEndian.bytes (LittleEndian.word [e, f, g, h]) ++ (rest.take (rest.length - 36) ++
      ((rest.drop (rest.length - 36)).take 32 ++ _)))
  rw [front, next, last, ← tail, List.take_append_drop, List.take_append_drop]
  rfl

/-- The checksum does not look behind the bytes it counts. -/
lemma templateV1Crc_append {payload : List UInt8} {count : Nat} (inside : count ≤ payload.length)
    (rest : List UInt8) : templateV1Crc (payload ++ rest) count = templateV1Crc payload count := by
  have narrowed : (UInt16.ofNat count).toNat ≤ count := by
    rw [UInt16.toNat_ofNat']
    exact Nat.mod_le _ _
  simp only [templateV1Crc, List.take_append_of_le_length (narrowed.trans inside)]

/-- The checksum that belongs to a payload. -/
def sealOf (inner : List UInt8) (random : Vector UInt8 32) : UInt32 :=
  templateV1Crc (inner ++ random.toList) (inner.length + 32)

/-! ### Wrapping -/

/-- A block goes behind what is filled already. -/
lemma store_behind {done block : List UInt8} {offset room : Nat} (here : offset = done.length)
    (fits : block.length ≤ room) :
    store (done ++ List.replicate room 0) offset block =
      .ok ((done ++ block) ++ List.replicate (room - block.length) 0) := by
  subst here
  rw [store, if_pos (by rw [List.length_append, List.length_replicate]; omega), Buffer.write,
    List.take_left, List.drop_length_add_append, List.drop_replicate]

lemma store_behind_bind {done block : List UInt8} {offset room : Nat} (here : offset = done.length)
    (fits : block.length ≤ room) (next : List UInt8 → Except WrapFailure (List UInt8)) :
    (store (done ++ List.replicate room 0) offset block >>= next) =
      next ((done ++ block) ++ List.replicate (room - block.length) 0) := by
  rw [store_behind here fits]
  rfl

lemma wrapLimit : (maxUInt32 - v1TrailerLen).toNat = 2 ^ 32 - 37 := rfl

section lengths

variable {inner : List UInt8} (allowed : inner.length + 36 < 2 ^ 32)

include allowed

lemma toNat_payloadLen : (UInt32.ofNat (inner.length + 36)).toNat = inner.length + 36 :=
  UInt32.toNat_ofNat_of_lt' allowed

lemma toNat_totalLen :
    (prefixLen + UInt32.ofNat (inner.length + 36)).toNat = (inner.length + 44) % 2 ^ 32 := by
  rw [UInt32.toNat_add, toNat_payloadLen allowed, Nat.add_comm]
  rfl

lemma toNat_countedLen :
    (UInt32.ofNat (inner.length + 36) - v1CrcLen).toNat = inner.length + 32 := by
  rw [UInt32.toNat_sub, toNat_payloadLen allowed]
  change (2 ^ 32 - 4 + (inner.length + 36)) % 2 ^ 32 = _
  omega

lemma wrapV1_eq_fillV1 (random : Vector UInt8 32) :
    wrapV1 inner random = fillV1 ((inner.length + 44) % 2 ^ 32) (UInt32.ofNat (inner.length + 36))
      inner random := by
  have within : ¬inner.length > (maxUInt32 - v1TrailerLen).toNat := by
    rw [wrapLimit]
    omega
  rw [← toNat_totalLen allowed]
  exact if_neg within

/-- With room for every field the envelope is filled from front to back. -/
lemma fillV1_eq (random : Vector UInt8 32) :
    fillV1 (inner.length + 44) (UInt32.ofNat (inner.length + 36)) inner random =
      .ok (envelope typeV1 (UInt32.ofNat (inner.length + 36)) inner random
        (sealOf inner random)) := by
  unfold fillV1 envelope
  generalize typed : LittleEndian.bytes typeV1 = front
  generalize sized : LittleEndian.bytes (UInt32.ofNat (inner.length + 36)) = size
  have fourth : front.length = 4 := typed ▸ rfl
  have eighth : size.length = 4 := sized ▸ rfl
  have length : random.toList.length = 32 := random.length_toList
  have behind : ((front ++ size ++ inner ++ random.toList ++ List.replicate 4 0).drop 8) =
      (inner ++ random.toList) ++ List.replicate 4 0 := by
    have eight : (front ++ size).length = 8 := by rw [List.length_append, fourth, eighth]
    rw [List.append_assoc, List.append_assoc, List.drop_left' eight, List.append_assoc]
  have counted : templateV1Crc
      ((front ++ size ++ inner ++ random.toList ++ List.replicate 4 0).drop 8)
      (UInt32.ofNat (inner.length + 36) - v1CrcLen).toNat = sealOf inner random := by
    rw [toNat_countedLen allowed, behind,
      templateV1Crc_append (by rw [List.length_append, length])]
    rfl
  have typeStored := @store_behind_bind [] front 0 (inner.length + 44) rfl (by omega)
  have sizeStored := @store_behind_bind front size 4 (inner.length + 40) fourth.symm (by omega)
  have innerStored := @store_behind_bind (front ++ size) inner 8 (inner.length + 36)
    (by rw [List.length_append, fourth, eighth]) (by omega)
  have randomStored := @store_behind_bind (front ++ size ++ inner) random.toList
    (8 + inner.length) 36 (by simp only [List.length_append, fourth, eighth]) (by omega)
  have sealStored := @store_behind (front ++ size ++ inner ++ random.toList)
    (LittleEndian.bytes (sealOf inner random)) (inner.length + 40) 4
    (by simp only [List.length_append, fourth, eighth, length]; omega) le_rfl
  rw [List.nil_append, List.nil_append, fourth] at typeStored
  rw [eighth] at sizeStored
  rw [Nat.add_sub_cancel_left] at innerStored
  rw [length] at randomStored
  have last : inner.length + 44 - v1CrcLen.toNat = inner.length + 40 := rfl
  dsimp only
  rw [typeStored, last]
  rw [← counted] at sealStored
  refine (sizeStored _).trans ((innerStored _).trans ((randomStored _).trans
    (sealStored.trans ?_)))
  rw [counted]
  simp only [LittleEndian.length_bytes, List.append_assoc, List.replicate_zero, Nat.sub_self,
    List.append_nil]

end lengths

/-- Without room for the type and the length the second write leaves the envelope. -/
lemma fillV1_outOfBounds {totalLen : Nat} (small : totalLen < 8) (payloadLen : UInt32)
    (inner : List UInt8) (random : Vector UInt8 32) :
    fillV1 totalLen payloadLen inner random = .error .outOfBounds := by
  have refused : ∀ wrapped : List UInt8, wrapped.length = totalLen →
      store wrapped 4 (LittleEndian.bytes payloadLen) = .error .outOfBounds := by
    intro wrapped length
    rw [store, if_neg (by rw [length, LittleEndian.length_bytes]; omega)]
  by_cases room : 4 ≤ totalLen
  · have stored := @store_behind [] (LittleEndian.bytes typeV1) 0 totalLen rfl room
    rw [List.nil_append, List.nil_append] at stored
    have kept :
        (LittleEndian.bytes typeV1 ++ List.replicate (totalLen - 4) 0).length = totalLen := by
      rw [List.length_append, List.length_replicate, LittleEndian.length_bytes]
      omega
    unfold fillV1
    dsimp only
    rw [stored]
    change (store _ 4 _ >>= _) = _
    rw [LittleEndian.length_bytes, refused _ kept]
    rfl
  · have stored : store (List.replicate totalLen 0) 0 (LittleEndian.bytes typeV1) =
        .error .outOfBounds := by
      rw [store, if_neg (by rw [List.length_replicate, LittleEndian.length_bytes]; omega)]
    unfold fillV1
    dsimp only
    rw [stored]
    rfl

lemma wrapV1_eq {inner : List UInt8} (short : inner.length + 44 < 2 ^ 32)
    (random : Vector UInt8 32) :
    wrapV1 inner random = .ok (envelope typeV1 (UInt32.ofNat (inner.length + 36)) inner random
      (sealOf inner random)) := by
  have allowed : inner.length + 36 < 2 ^ 32 := by omega
  rw [wrapV1_eq_fillV1 allowed, Nat.mod_eq_of_lt short]
  exact fillV1_eq allowed random

lemma wrapV1_outOfBounds {inner : List UInt8} (long : 2 ^ 32 ≤ inner.length + 44)
    (allowed : inner.length + 36 < 2 ^ 32) (random : Vector UInt8 32) :
    wrapV1 inner random = .error .outOfBounds := by
  rw [wrapV1_eq_fillV1 allowed]
  exact fillV1_outOfBounds (by omega) _ _ _

lemma wrapV1_fails {inner : List UInt8} (long : 2 ^ 32 ≤ inner.length + 44)
    (random : Vector UInt8 32) :
    wrapV1 inner random = .error .null ∨ wrapV1 inner random = .error .outOfBounds := by
  by_cases allowed : inner.length + 36 < 2 ^ 32
  · exact Or.inr (wrapV1_outOfBounds long allowed random)
  · refine Or.inl (if_pos ?_)
    rw [wrapLimit]
    omega

/-- What wrapping returns was short enough for the allocation. -/
lemma short_of_wrapV1 {inner wrapped : List UInt8} {random : Vector UInt8 32}
    (wraps : wrapV1 inner random = .ok wrapped) : inner.length + 44 < 2 ^ 32 := by
  by_contra long
  rcases wrapV1_fails (not_lt.mp long) random with failure | failure
  · rw [failure] at wraps
    cases wraps
  · rw [failure] at wraps
    cases wraps

/-! ### Parsing -/

/-- A template whose length field is right is accepted exactly with the checksum of its payload. -/
lemma parse_envelope {size crc : UInt32} {inner : List UInt8} {random : Vector UInt8 32}
    (declared : size.toNat = inner.length + 36) :
    parse (envelope typeV1 size inner random crc) =
      if crc = sealOf inner random then
        (⟨typeV1, size, inner, some random.toList, crc⟩, .ok ())
      else (.zero, .error ⟨.invalidData, "gdix51c0: Chicago V1 CRC mismatch: stored=0x" ++
        hex8 crc ++ " expected=0x" ++ hex8 (sealOf inner random)⟩) := by
  have length : random.toList.length = 32 := random.length_toList
  have trailer : v1TrailerLen ≤ size := by
    rw [UInt32.le_iff_toNat_le, declared]
    exact Nat.le_add_left _ _
  have innerLen : (size - v1TrailerLen).toNat = inner.length := by
    rw [UInt32.toNat_sub_of_le _ _ trailer, declared]
    exact Nat.add_sub_cancel _ _
  have counted : (size - v1CrcLen).toNat = inner.length + 32 := by
    have short : v1CrcLen ≤ v1TrailerLen := by decide
    rw [UInt32.toNat_sub_of_le _ _ (UInt32.le_trans short trailer), declared]
    rfl
  have sealed : templateV1Crc (inner ++ (random.toList ++ LittleEndian.bytes crc))
      (inner.length + 32) = sealOf inner random := by
    rw [← List.append_assoc, templateV1Crc_append (by rw [List.length_append, length])]
    rfl
  have stored : LittleEndian.word
      ((random.toList ++ LittleEndian.bytes crc).drop v1RandomLen.toNat) = crc := by
    have cut : (random.toList ++ LittleEndian.bytes crc).drop v1RandomLen.toNat =
        LittleEndian.bytes crc := List.drop_left' length
    rw [cut, LittleEndian.word_bytes]
  have mixed : (random.toList ++ LittleEndian.bytes crc).take v1RandomLen.toNat = random.toList :=
    List.take_left' length
  have behind : (envelope typeV1 size inner random crc).drop prefixLen.toNat =
      inner ++ (random.toList ++ LittleEndian.bytes crc) := rfl
  have branch : parse (envelope typeV1 size inner random crc) =
      parseV1 (envelope typeV1 size inner random crc)
        { TemplateView.zero with type := typeV1, declaredPayloadLen := size } := by
    have long : ¬(envelope typeV1 size inner random crc).length < prefixLen.toNat := by
      rw [length_envelope]
      exact Nat.not_lt.mpr (Nat.le_add_left 8 (inner.length + 36))
    have exact : ¬size.toNat ≠ (envelope typeV1 size inner random crc).length - 8 := by
      rw [length_envelope, declared]
      exact not_not_intro rfl
    simp only [parse, word_envelope, word_drop_envelope, if_neg long, if_neg exact,
      if_neg (UInt32.not_lt.mpr trailer)]
    rfl
  rw [branch]
  simp only [parseV1, innerLen, counted, behind, List.drop_left, List.take_left, stored, mixed,
    sealed]
  by_cases same : crc = sealOf inner random
  · rw [if_neg (not_not_intro same), if_pos same]
  · rw [if_pos same, if_neg same]

lemma accepted_fields {data : List UInt8} {view : TemplateView}
    (accepted : parse data = (view, .ok ())) (v1 : view.type = typeV1) :
    LittleEndian.word data = typeV1 ∧
      (LittleEndian.word (data.drop 4)).toNat = data.length - 8 ∧ 44 ≤ data.length := by
  unfold parse at accepted
  split at accepted
  · cases (Prod.mk.inj accepted).2
  dsimp only at accepted
  split at accepted
  · cases (Prod.mk.inj accepted).2
  split at accepted
  · cases (Prod.mk.inj accepted).2
  rename_i declared
  split at accepted
  · rename_i type
    split at accepted
    · cases (Prod.mk.inj accepted).2
    · rename_i trailer
      rw [UInt32.not_lt, UInt32.le_iff_toNat_le] at trailer
      have least : 36 ≤ (LittleEndian.word (data.drop 4)).toNat := trailer
      exact ⟨type, by omega, by omega⟩
  · -- A V2 template keeps its own type.
    rename_i other
    split at accepted
    · cases (Prod.mk.inj accepted).2
    · rw [← (Prod.mk.inj accepted).1] at v1
      exact absurd v1 other

/-- An accepted V1 template is the envelope of what the view shows. -/
lemma accepted_envelope {data : List UInt8} {view : TemplateView}
    (accepted : parse data = (view, .ok ())) (v1 : view.type = typeV1) :
    ∃ size inner random, size.toNat = List.length inner + 36 ∧
      data = envelope typeV1 size inner random (sealOf inner random) ∧
      view = ⟨typeV1, size, inner, some random.toList, sealOf inner random⟩ := by
  obtain ⟨type, declared, room⟩ := accepted_fields accepted v1
  obtain ⟨inner, random, crc, is⟩ := exists_envelope room
  rw [type] at is
  generalize LittleEndian.word (data.drop 4) = size at is declared
  subst is
  rw [length_envelope] at declared
  have size_eq : size.toNat = inner.length + 36 := declared
  rw [parse_envelope size_eq] at accepted
  split at accepted
  · rename_i same
    subst same
    rw [Prod.mk.injEq] at accepted
    exact ⟨size, inner, random, size_eq, rfl, accepted.1.symm⟩
  · cases (Prod.mk.inj accepted).2

/-- Wrapping and parsing are inverse to each other exactly where the whole envelope is shorter
than `2 ^ 32` bytes: the eight lengths above, which the length check lets pass, overflow the size of
the allocation. -/
theorem wrap_v1_round_trips_iff (inner : List UInt8) (random : Vector UInt8 32)
    (data : List UInt8) (view : TemplateView) :
    ((∃ wrapped view, wrapV1 inner random = .ok wrapped ∧ parse wrapped = (view, .ok ()) ∧
        view.type = typeV1 ∧ view.chicagoPayload = inner ∧ view.random = some random.toList) ↔
      inner.length + 44 < 2 ^ 32) ∧
    (parse data = (view, .ok ()) → view.type = typeV1 →
      ∃ random : Vector UInt8 32, view.random = some random.toList ∧
        (wrapV1 view.chicagoPayload random = .ok data ↔ data.length < 2 ^ 32)) := by
  constructor
  · constructor
    · rintro ⟨wrapped, view, wraps, -⟩
      exact short_of_wrapV1 wraps
    · intro short
      have size := toNat_payloadLen (show inner.length + 36 < 2 ^ 32 by omega)
      refine ⟨_, _, wrapV1_eq short random, (parse_envelope size).trans (if_pos rfl), rfl, rfl, rfl⟩
  · intro accepted v1
    obtain ⟨size, inner, random, declared, rfl, rfl⟩ := accepted_envelope accepted v1
    refine ⟨random, rfl, ?_⟩
    rw [length_envelope]
    constructor
    · intro wraps
      exact short_of_wrapV1 wraps
    · intro short
      rw [wrapV1_eq short random, ← declared, UInt32.ofNat_toNat]

/-- The shortest packed template that passes the length check and overflows the allocation. -/
theorem wrap_v1_overflows :
    (List.replicate 4294967252 (0 : UInt8)).length ≤ (maxUInt32 - v1TrailerLen).toNat ∧
      wrapV1 (List.replicate 4294967252 0) (Vector.replicate 32 0) = .error .outOfBounds := by
  have length : (List.replicate 4294967252 (0 : UInt8)).length = 4294967252 :=
    List.length_replicate
  constructor
  · rw [length, wrapLimit]
    omega
  · exact wrapV1_outOfBounds (by omega) (by omega) _

end SystemTemplate

end GoodixSpi.Chicago
