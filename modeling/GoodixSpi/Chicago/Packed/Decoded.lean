import GoodixSpi.Chicago.Match.Serialization

/-! What the parser makes of any bytes is already in the form in which the feature stage hands
records over. -/

namespace GoodixSpi.Chicago

open ByteReader

lemma and_fff0_mod (word : UInt32) : (word &&& 0xfff0).toUInt16.toNat % 0x10 = 0 := by
  have mask : (0xfff0 : UInt32).toNat = 0xfff0 := rfl
  rw [UInt32.toNat_toUInt16, UInt32.toNat_and, mask, and_fff0]
  omega

/-- A sign and seven bits. -/
lemma unpackedOrientation_turn (orientation : UInt8) :
    ∃ turn : Int, -0x7f ≤ turn ∧ turn ≤ 0x7f ∧
      (unpackedOrientation orientation).toInt = turn * 0x100 := by
  have below := orientation.toNat_lt
  have signBit : (0x80 : UInt8).toNat = 0x80 := rfl
  unfold unpackedOrientation
  split
  · next positive =>
    rw [UInt8.lt_iff_toNat_lt, signBit] at positive
    refine ⟨orientation.toNat, by omega, by omega, ?_⟩
    rw [Int16.toInt_ofInt_of_le (by omega) (by omega)]
  · next negative =>
    rw [UInt8.lt_iff_toNat_lt, signBit] at negative
    refine ⟨-(orientation.toNat - 0x80), by omega, by omega, ?_⟩
    rw [Int16.toInt_ofInt_of_le (by omega) (by omega)]
    ring

/-- A decoded record, whatever its bytes. -/
lemma packedDecodeRecord_prepared (packed : List UInt8) : (packedDecodeRecord packed).Prepared where
  x := and_fff0_mod _
  y := and_fff0_mod _
  orientation := unpackedOrientation_turn _

/-- Records as the parser leaves them. -/
structure Subtemplate.Decoded (subtemplate : Subtemplate) : Prop where
  prepared : ∀ record ∈ subtemplate.records, record.Prepared
  classified : subtemplate.Classified

lemma yields_records (pointer : List UInt8) (count : Nat) :
    Yields (decodeRecords pointer count) fun records =>
      ∀ record ∈ records, ∃ packed, record = packedDecodeRecord packed := by
  induction count generalizing pointer with
  | zero => exact .pure fun record listed => absurd listed List.not_mem_nil
  | succ count ih =>
    refine .after fun packed => (ih _).bind fun rest all => .pure fun record listed => ?_
    rcases List.mem_cons.mp listed with rfl | later
    · exact ⟨packed, rfl⟩
    · exact all record later

lemma mem_classifyForeground {activeCount : Nat} {records : List FeatureRecord} {index : Nat}
    {record : FeatureRecord}
    (found : (classifyForeground activeCount records)[index]? = some record) :
    ∃ original ∈ records, record =
      if activeCount ≤ index then { original with foreground := 1 } else original := by
  rw [classifyForeground, List.getElem?_mapIdx, Option.map_eq_some_iff] at found
  obtain ⟨original, here, rfl⟩ := found
  exact ⟨original, List.mem_of_getElem? here, rfl⟩

/-- Marked records stay prepared, and the mark is the class. -/
lemma decoded_of_classify {subtemplate : Subtemplate} {records : List FeatureRecord}
    (marked : subtemplate.records = classifyForeground subtemplate.activeCount records)
    (prepared : ∀ record ∈ records, record.Prepared ∧ record.foregroundClass = 0) :
    subtemplate.Decoded := by
  have each : ∀ (index : Nat) (record : FeatureRecord), subtemplate.records[index]? = some record →
      record.Prepared ∧ record.foregroundClass = if index < subtemplate.activeCount then 0 else 1 := by
    intro index record found
    rw [marked] at found
    obtain ⟨original, listed, rfl⟩ := mem_classifyForeground found
    obtain ⟨kept, plain⟩ := prepared original listed
    by_cases background : subtemplate.activeCount ≤ index
    · rw [if_pos background, if_neg (by omega)]
      exact ⟨⟨kept.x, kept.y, kept.orientation⟩, (by decide : (1 : UInt16) &&& 3 = 1)⟩
    · rw [if_neg background, if_pos (by omega)]
      exact ⟨kept, plain⟩
  constructor
  · intro record listed
    obtain ⟨index, found⟩ := List.mem_iff_getElem?.mp listed
    exact (each index record found).1
  · intro index record found
    exact (each index record found).2

lemma foregroundClass_packedDecodeRecord (packed : List UInt8) :
    (packedDecodeRecord packed).foregroundClass = 0 := by
  simp only [FeatureRecord.foregroundClass, packedDecodeRecord, UInt16.zero_and]

lemma yields_subtemplateBody (capacity recordLimit : Nat) :
    Yields (unpackSubtemplateBody capacity recordLimit) Subtemplate.Decoded := by
  refine .after fun _ => .after fun _ => .after fun _ => .after fun _ => .after fun _ =>
    .after fun _ => .after fun _ => .after fun _ => .after fun _ => .after fun _ =>
    (yields_records _ _).bind fun decoded all => ?_
  refine .after fun _ => .after fun _ => .after fun _ => .after fun _ => .after fun _ =>
    .after fun _ => .after fun _ => .after fun _ => .after fun _ => .after fun _ =>
    .after fun _ => .after fun _ => .after fun _ => .after fun _ => .after fun _ =>
    .pure (decoded_of_classify rfl fun record listed => ?_)
  obtain ⟨packed, rfl⟩ := all record listed
  exact ⟨packedDecodeRecord_prepared packed, foregroundClass_packedDecodeRecord packed⟩

lemma yields_subtemplate (capacity recordLimit : Nat) :
    Yields (unpackSubtemplate capacity recordLimit) Subtemplate.Decoded :=
  .after fun _ => .within (yields_subtemplateBody capacity recordLimit)

lemma yields_body : Yields unpackBody fun e =>
    ∀ subtemplate ∈ e.subtemplates, subtemplate.Decoded := by
  refine .after fun header => ((yields_subtemplate _ _).times _).bind fun subtemplates all => ?_
  exact .after fun _ => .after fun _ => .after fun _ => .after fun _ => .after fun _ =>
    .after fun _ => .after fun _ => .pure all

/-- Every sub-template that the parser accepts. -/
theorem decoded_of_unpack {data : List UInt8} {e : Enrollment} (accepted : unpack data = .ok e) :
    ∀ subtemplate ∈ e.subtemplates, subtemplate.Decoded := by
  unfold unpack at accepted
  split at accepted
  · cases accepted
  · split at accepted
    · cases accepted
    · next read =>
      cases accepted
      exact yields_body _ _ _ read

/-- Through the packed form and back, a sub-template is decoded again. -/
lemma Subtemplate.Decoded.reload {subtemplate : Subtemplate} (decoded : subtemplate.Decoded) :
    (reloadSubtemplate subtemplate).Decoded := by
  refine decoded_of_classify rfl fun record listed => ?_
  obtain ⟨original, here, rfl⟩ := List.mem_map.mp listed
  exact ⟨reload_prepared (decoded.prepared original here),
    foregroundClass_packedDecodeRecord _⟩

end GoodixSpi.Chicago
