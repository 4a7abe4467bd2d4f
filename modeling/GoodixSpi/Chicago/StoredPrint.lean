import GoodixSpi.Chicago.Enrollment.Storable
import GoodixSpi.Chicago.Match.Selection
import GoodixSpi.Chicago.Runtime

/-! The life of a stored print. Each press is matched against the data that is stored at the
time, and what study makes of it is stored in its place. -/

namespace GoodixSpi.Chicago

/-- Only a known index is studied. -/
lemma selectedIndex_of_studies {result : MatchTemplateResult} {index : Nat}
    (studies : result.studies = some index) : result.selectedIndex = some index := by
  unfold MatchTemplateResult.studies at studies
  split at studies
  · cases studies
  · exact studies

lemma length_relations {result : MatchTemplateResult} {count : Nat}
    (counted : result.studyRelationCount = count) (few : count ≤ enrollmentCapacity) :
    result.relations.length = count := by
  rw [MatchTemplateResult.relations, List.length_take, Vector.length_toList, counted]
  exact Nat.min_eq_left few

/-! ### Presses on a stored print -/

/-- A press on the sensor: its probe, and the calibration of the time. -/
structure Press where
  probe : SubtemplateView
  calibration : List UInt8

section Life

variable (sha256 : List UInt8 → Vector UInt8 calibrationDigestLength) (sensorId : SensorId)

/-- A match and the study that follows it, as the driver calls them. -/
def Press.matchAndStudy (press : Press) (data : PrintData) :
    Except RuntimeStop (MatchTemplateResult × PrintData) := do
  let result ← runtimeMatchPrintData press.probe (.native data) sensorId
  let updated ← runtimeStudyPrintData sha256 press.probe (.native data) sensorId press.calibration
    result
  return (result, updated.getD data)

/-- The results of some presses, and what is stored after them. -/
def life : List Press → PrintData → Except RuntimeStop (List MatchTemplateResult × PrintData)
  | [], data => .ok ([], data)
  | press :: rest, data => do
    let (result, stored) ← press.matchAndStudy sha256 sensorId data
    let (results, last) ← life rest stored
    return (result :: results, last)

/-- Data of this sensor that loads, with the gallery in it. -/
structure StoredPrint (data : PrintData) (gallery : Enrollment) : Prop where
  bound : data.BoundTo sensorId
  loads : unpack data.template = .ok gallery
  blocks : gallery.BlocksFit
  recordLimit : gallery.recordLimit = subtemplateRecordLimit

variable {sensorId} {data : PrintData} {gallery : Enrollment} {press : Press}

namespace StoredPrint

lemma storable (stored : StoredPrint sensorId data gallery) : gallery.Storable :=
  ⟨(accepted_of_unpack stored.loads).packable, stored.blocks, stored.recordLimit,
    decoded_of_unpack stored.loads⟩

lemma opens (stored : StoredPrint sensorId data gallery) :
    openPrint (.native data) sensorId = .ok gallery := by
  have parsed := printDataParse_eq_ok_iff.mpr ⟨data, rfl, stored.bound, rfl⟩
  simp only [openPrint, parsed, Except.mapError, Bind.bind, Except.bind, runtimeUnpack,
    stored.loads]

/-- A call matches against the stored gallery. -/
lemma runtimeMatch_iff (stored : StoredPrint sensorId data gallery) (probe : SubtemplateView)
    {result : MatchTemplateResult} :
    runtimeMatchPrintData probe (.native data) sensorId = .ok result ↔
      gallery.matchTemplateType24 probe runtimeSelectorThreshold = some result := by
  simp only [runtimeMatchPrintData, stored.opens, Bind.bind, Except.bind]
  cases gallery.matchTemplateType24 probe runtimeSelectorThreshold with
  | none =>
    constructor
    · intro failed
      cases failed
    · intro failed
      cases failed
  | some found =>
    constructor
    · intro same
      cases same
      rfl
    · intro same
      cases same
      rfl

end StoredPrint

/-- A storable gallery is packed, and what is built from it loads again. -/
lemma storedPrint_build {e : Enrollment} (storable : e.Storable) (calibration : List UInt8) :
    e.pack = .ok e.packedTemplate ∧
      StoredPrint sensorId (printDataBuild sha256 sensorId calibration e.packedTemplate)
        e.reload := by
  obtain ⟨packed, unpacked⟩ := storable.packable.pack_unpack
  have present : e.packedTemplate ≠ [] := List.cons_ne_nil _ _
  have loaded := storable.reload
  exact ⟨packed, printDataBuild_boundTo present, unpacked, loaded.blocks, loaded.recordLimit⟩

/-- What the capacity selector returns can be studied. -/
lemma runtimeReplace_ok {e : Enrollment} {probe : SubtemplateView} (storable : e.Storable)
    (studyable : probe.Studyable) (full : e.count = e.capacity) {selectedIndex : Nat}
    (selected : selectedIndex < e.count) {relations : List Relation}
    (counted : relations.length = e.count) :
    ∃ studied, runtimeReplace probe e selectedIndex relations = .ok studied ∧
      ∀ after, studied = some after →
        after.Storable ∧ after.count = e.count ∧ after.capacity = e.capacity := by
  obtain ⟨⟨graph, replacementIndex⟩, chosen, same, inside, closed, given, length⟩ :=
    Enrollment.selectCapacityReplacement_ok storable.slots full storable.packable.capacity selected
      counted studyable.flagged studyable.metric true buildCapacityRelation
  have kept := storable.of_sameContent rfl same
  have count : graph.enrollment.count = e.count := same.slots.count
  have capacity : graph.enrollment.capacity = e.capacity := same.slots.capacity
  unfold runtimeReplace
  rw [chosen]
  cases replacementIndex with
  | none => exact ⟨none, rfl, fun after none_ => by cases none_⟩
  | some index =>
    have replaced := inside index rfl
    obtain ⟨studied, ok⟩ := Enrollment.replaceStudy_succeeds kept studyable
      (count.trans (full.trans capacity.symm)) (count.symm ▸ selected) (count.symm ▸ replaced)
      (length.trans count.symm)
    have given' : graph.probeRelations = some closed := given
    dsimp only
    rw [given', Option.getD_some, ok]
    refine ⟨some studied, rfl, fun after some_ => ?_⟩
    cases some_
    obtain ⟨holds, counted', capacity'⟩ := kept.replace studyable ok
    exact ⟨holds, counted'.trans count, capacity'.trans capacity⟩

/-- What a match leaves of the gallery of a stored print. -/
inductive Studied (probe : SubtemplateView) (result : MatchTemplateResult) (gallery : Enrollment) :
    Enrollment → Prop
  | skipped (idle : result.studies = none) : Studied probe result gallery gallery
  | appended (selectedIndex : Nat) (after : Enrollment)
      (studies : result.studies = some selectedIndex) (room : gallery.count < gallery.capacity)
      (ok : gallery.appendStudy probe selectedIndex result.relations = .ok (after, gallery.count)) :
      Studied probe result gallery after.reload
  | declined (selectedIndex : Nat) (studies : result.studies = some selectedIndex)
      (full : gallery.count = gallery.capacity) : Studied probe result gallery gallery
  | replaced (selectedIndex : Nat) (after : Enrollment)
      (studies : result.studies = some selectedIndex) (full : gallery.count = gallery.capacity)
      (size : after.count = gallery.count ∧ after.capacity = gallery.capacity)
      (ok : runtimeReplace probe gallery selectedIndex result.relations = .ok (some after)) :
      Studied probe result gallery after.reload

/-- Study adds the probe while there is room, and keeps the size of a full gallery. -/
lemma Studied.size {probe : SubtemplateView} {result : MatchTemplateResult}
    {gallery after : Enrollment} (studied : Studied probe result gallery after) :
    after.capacity = gallery.capacity ∧ after.count =
      if result.studies.isSome then min gallery.capacity (gallery.count + 1)
      else gallery.count := by
  cases studied with
  | skipped idle => simp [idle]
  | appended selectedIndex grown studies room ok =>
    obtain ⟨metricData, source, grows⟩ := Enrollment.appendStudy_grows ok
    refine ⟨grows.capacity, ?_⟩
    rw [reload_count, grows.count, studies, Option.isSome_some, if_pos rfl]
    omega
  | declined selectedIndex studies full =>
    refine ⟨rfl, ?_⟩
    rw [studies, Option.isSome_some, if_pos rfl]
    omega
  | replaced selectedIndex grown studies full size ok =>
    refine ⟨size.2, ?_⟩
    rw [reload_count, size.1, studies, Option.isSome_some, if_pos rfl]
    omega

/-- The study of a match of this very gallery. -/
lemma runtimeStudyGallery_ok {e : Enrollment} {probe : SubtemplateView} (storable : e.Storable)
    (studyable : probe.Studyable) {result : MatchTemplateResult} {selectedIndex : Nat}
    (studies : result.studies = some selectedIndex) (selected : selectedIndex < e.count)
    (counted : result.studyRelationCount = e.count) :
    ∃ studied, runtimeStudyGallery probe e selectedIndex result = .ok studied ∧
      (studied = none → Studied probe result e e) ∧
      ∀ after, studied = some after → after.Storable ∧ Studied probe result e after.reload := by
  have few := storable.packable.count.trans storable.packable.capacity
  have fits := storable.packable.count
  have length := length_relations counted few
  unfold runtimeStudyGallery
  rw [if_neg (by omega)]
  by_cases room : e.count < e.capacity
  · obtain ⟨studied, ok⟩ := Enrollment.appendStudy_succeeds storable studyable selected room length
    rw [if_pos room, ok]
    refine ⟨some studied, rfl, nofun, fun after some_ => ?_⟩
    cases some_
    exact ⟨(storable.append studyable ok).1, .appended selectedIndex studied studies room ok⟩
  · have full : e.count = e.capacity := by omega
    obtain ⟨studied, ok, keeps⟩ := runtimeReplace_ok storable studyable full selected length
    rw [if_neg room]
    refine ⟨studied, ok, fun _ => .declined selectedIndex studies full, fun after some_ => ?_⟩
    obtain ⟨holds, size⟩ := keeps after some_
    exact ⟨holds, .replaced selectedIndex after studies full size (some_ ▸ ok)⟩

/-- One press. -/
lemma StoredPrint.matchAndStudy (stored : StoredPrint sensorId data gallery)
    (studyable : press.probe.Studyable) :
    ∃ result after gallery',
      gallery.matchTemplateType24 press.probe runtimeSelectorThreshold = some result ∧
      press.matchAndStudy sha256 sensorId data = .ok (result, after) ∧
      StoredPrint sensorId after gallery' ∧ Studied press.probe result gallery gallery' := by
  have storable := stored.storable
  obtain ⟨result, matched, counted, selected⟩ :=
    Enrollment.matchTemplateType24_spec storable.packable studyable.metric runtimeSelectorThreshold
  have found := (stored.runtimeMatch_iff press.probe).mpr matched
  cases studies : result.studies with
  | none =>
    refine ⟨result, data, gallery, matched, ?_, stored, .skipped studies⟩
    simp only [Press.matchAndStudy, found, runtimeStudyPrintData, studies, Bind.bind, Except.bind]
    rfl
  | some selectedIndex =>
    obtain ⟨studied, ok, unchanged, keeps⟩ := runtimeStudyGallery_ok storable studyable studies
      (selected _ (selectedIndex_of_studies studies)) counted
    cases studied with
    | none =>
      refine ⟨result, data, gallery, matched, ?_, stored, unchanged rfl⟩
      simp only [Press.matchAndStudy, found, runtimeStudyPrintData, studies, stored.opens, ok,
        Bind.bind, Except.bind]
      rfl
    | some after =>
      obtain ⟨holds, step⟩ := keeps after rfl
      obtain ⟨packed, built⟩ := storedPrint_build sha256 holds press.calibration
      refine ⟨result, _, after.reload, matched, ?_, built, step⟩
      simp only [Press.matchAndStudy, found, runtimeStudyPrintData, studies, stored.opens, ok,
        packed, Except.mapError, Bind.bind, Except.bind]
      rfl

/-- A stored print outlives any presses of its finger, under any calibrations: no match and no
study of it fails or faults, each study adds one sub-template until the gallery is full, and what
is stored is a print of the same sensor that loads. -/
theorem stored_print_lives (stored : StoredPrint sensorId data gallery) (presses : List Press)
    (studyable : ∀ press ∈ presses, press.probe.Studyable) :
    ∃ results after gallery', life sha256 sensorId presses data = .ok (results, after) ∧
      results.length = presses.length ∧ StoredPrint sensorId after gallery' ∧
      gallery'.capacity = gallery.capacity ∧
      gallery'.count = min gallery.capacity
        (gallery.count + results.countP fun result => result.studies.isSome) := by
  induction presses generalizing data gallery with
  | nil =>
    have fits := stored.storable.packable.count
    exact ⟨[], data, gallery, rfl, rfl, stored, rfl, by simp [fits]⟩
  | cons press rest ih =>
    obtain ⟨result, next, gallery₁, -, once, stored₁, step⟩ :=
      stored.matchAndStudy sha256 (studyable press List.mem_cons_self)
    obtain ⟨capacity₁, count₁⟩ := step.size
    obtain ⟨results, after, gallery', later, length, stored', capacity', count'⟩ :=
      ih stored₁ fun other listed => studyable other (List.mem_cons_of_mem press listed)
    refine ⟨result :: results, after, gallery', ?_, by simp [length], stored',
      capacity'.trans capacity₁, ?_⟩
    · simp only [life, once, later, Bind.bind, Except.bind]
      rfl
    · rw [count', capacity₁, count₁, List.countP_cons]
      cases result.studies.isSome with
      | false => simp
      | true =>
        simp only [if_true]
        omega

end Life

/-! ### A print with one sub-template -/

/-- The digest of no bytes. -/
def emptyDigest : Vector UInt8 calibrationDigestLength :=
  #v[0xe3, 0xb0, 0xc4, 0x42, 0x98, 0xfc, 0x1c, 0x14, 0x9a, 0xfb, 0xf4, 0xc8, 0x99, 0x6f, 0xb9, 0x24,
    0x27, 0xae, 0x41, 0xe4, 0x64, 0x9b, 0x93, 0x4c, 0xa4, 0x95, 0x99, 0x1b, 0x78, 0x52, 0xb8, 0x55]

def gridSensor : SensorId := Vector.replicate _ 0x24

lemma gridGallery_storable : gridGallery.Storable := by
  refine .of_layout (Layout.step Layout.new step_gridGallery) (by decide)
    fun subtemplate listed => ⟨gridGallery_prepared subtemplate listed, ?_⟩
  rw [List.mem_singleton.mp listed]
  intro index record found
  obtain ⟨slot, inside, rfl⟩ := List.mem_map.mp (List.mem_of_getElem? found)
  have active : index < 21 := by
    simpa [Subtemplate.fresh, gridSample] using (List.getElem?_eq_some_iff.mp found).1
  show _ = if index < 21 then (0 : UInt16) else 1
  rw [if_pos active]
  exact UInt16.zero_and

lemma shiftedRecord_prepared {mark : UInt8} {index : Nat} (inside : index < 21) :
    (gridRecord 0 0 mark index).Prepared := by
  have coordinates : ∀ index < 21, (gridRecord 0 0 0 index).unsignedX % 0x10 = 0 ∧
      (gridRecord 0 0 0 index).unsignedY % 0x10 = 0 := by decide
  exact ⟨(coordinates index inside).1, (coordinates index inside).2, 0, by decide, by decide, rfl⟩

lemma gridProbe_studyable : gridProbe.Studyable where
  flagged := rfl
  metric := rfl
  records := (by decide : 21 ≤ 120)
  active := Nat.le_refl 21
  prepared := by
    intro record listed
    obtain ⟨index, inside, rfl⟩ := List.mem_map.mp listed
    exact shiftedRecord_prepared (List.mem_range.mp inside)
  classified := by
    intro index record found
    obtain ⟨slot, inside, rfl⟩ := List.mem_map.mp (List.mem_of_getElem? found)
    have active : index < 21 := by
      simpa [gridProbe, gridSample] using (List.getElem?_eq_some_iff.mp found).1
    show _ = if index < 21 then (0 : UInt16) else 1
    rw [if_pos active]
    exact UInt16.zero_and

/-- The print of the grid. -/
def gridPrint : PrintData :=
  printDataBuild (fun _ => emptyDigest) gridSensor [] gridGallery.packedTemplate

lemma gridPrint_stored : StoredPrint gridSensor gridPrint gridGallery.reload :=
  (storedPrint_build (fun _ => emptyDigest) gridGallery_storable []).2

def gridPress : Press := ⟨gridProbe, []⟩

theorem stored_print_lives_grid :
    ∃ results after gallery', life (fun _ => emptyDigest) gridSensor [gridPress, gridPress]
        gridPrint = .ok (results, after) ∧
      StoredPrint gridSensor after gallery' := by
  obtain ⟨results, after, gallery', lives, -, stored, -⟩ :=
    stored_print_lives (fun _ => emptyDigest) gridPrint_stored [gridPress, gridPress]
      fun press listed => by
        have here : press = gridPress := by simpa using listed
        rw [here]
        exact gridProbe_studyable
  exact ⟨results, after, gallery', lives, stored⟩

end GoodixSpi.Chicago
