import GoodixSpi.Chicago.Match.Study
import GoodixSpi.Chicago.StoredPrint

/-! What a stored print is for: it stands for a gallery that never leaves memory. While there is
room, both give every press the same result. -/

namespace GoodixSpi.Chicago

/-- The sub-templates in match order, as the matcher sees them. -/
abbrev PrintMemory := List (Nat × SubtemplateView)

namespace PrintMemory

variable (memory : PrintMemory)

def matchProbe (probe : SubtemplateView) : Option MatchTemplateResult :=
  probe.metricData.bind fun metricData =>
    (matchSchedule memory probe metricData.packedResolution runtimeSelectorThreshold).map
      fun result => { result with studyRelationCount := memory.length }

/-- The probe is remembered behind all others. -/
def remember (probe : SubtemplateView) : PrintMemory :=
  memory ++ [(memory.length, probe.visible)]

/-- A match, and a study if the match calls for it. -/
def press (probe : SubtemplateView) : Option (MatchTemplateResult × PrintMemory) :=
  (memory.matchProbe probe).map fun result =>
    (result, if result.studies.isSome then memory.remember probe else memory)

def life (memory : PrintMemory) : List SubtemplateView →
    Option (List MatchTemplateResult × PrintMemory)
  | [] => some ([], memory)
  | probe :: rest =>
    (memory.press probe).bind fun once =>
      (life once.2 rest).map fun later => (once.1 :: later.1, later.2)

end PrintMemory

namespace Enrollment

variable {e after : Enrollment} {probe : SubtemplateView}

/-- What the matcher sees of a gallery. -/
def memory (e : Enrollment) : PrintMemory := e.schedule.map visibleEntry

lemma Ordered.length_memory (ordered : e.Ordered) : e.memory.length = e.count := by
  rw [memory, List.length_map, schedule, length_filterMap_of_isSome, List.length_range]
  intro schedule listed
  have used := List.mem_range.mp listed
  have below := ordered.scheduled.below schedule used
  rw [scheduledSubtemplate, ordered.getMatchOrderIndex used, Option.bind_some, Option.isSome_map,
    List.getElem?_eq_getElem below]
  rfl

lemma memory_matchProbe (ordered : e.Ordered) (probe : SubtemplateView) :
    e.memory.matchProbe probe = e.matchTemplateType24 probe runtimeSelectorThreshold := by
  have few : ¬e.count > enrollmentCapacity := Nat.not_lt.mpr ordered.count
  rw [PrintMemory.matchProbe, matchTemplateType24, if_neg few, ordered.length_memory]
  cases probe.metricData with
  | none => rfl
  | some metricData =>
    rw [Option.bind_some, memory, matchSchedule_visible]

/-- The matcher sees the sub-template that study adds as it sees the probe. -/
lemma newest_appendStudy (studyable : probe.Studyable) {selectedIndex appended : Nat}
    {relations : List Relation}
    (ok : e.appendStudy probe selectedIndex relations = .ok (after, appended)) :
    ∃ newest, after.subtemplates[e.count]? = some newest ∧
      newest.view.visible = probe.visible := by
  obtain ⟨metricData, source, given, -, -, -, -, -, -, rfl⟩ := appendStudy_ok ok
  have cores := @rebuildMatcherGroup_cores
    ((e.studySource selectedIndex).appendProbe probe metricData source relations)
  have counted : (e.studySource selectedIndex).subtemplates.length = e.count :=
    studySource_count e selectedIndex
  have last := congrArg (·[e.count]?) cores
  simp only [appendProbe, List.map_append, List.map_cons, List.map_nil] at last
  rw [← counted, List.getElem?_append_right (by simp), List.length_map, Nat.sub_self,
    List.getElem?_cons_zero, List.getElem?_map] at last
  obtain ⟨newest, found, core⟩ := Option.map_eq_some_iff.mp last
  refine ⟨newest, by rw [← counted]; exact found, ?_⟩
  rw [visible_of_core core]
  simp only [SubtemplateView.visible, Subtemplate.view, Subtemplate.fresh, Option.isSome_some,
    if_true, Option.getD_some, given, studyable.flagged]

/-- Study of a gallery with room is seen as one more entry. -/
lemma memory_appendStudy (ordered : e.Ordered) (studyable : probe.Studyable)
    {selectedIndex appended : Nat} {relations : List Relation}
    (ok : e.appendStudy probe selectedIndex relations = .ok (after, appended)) :
    after.memory = e.memory.remember probe := by
  obtain ⟨-, -, -, -, -, room, -⟩ := appendStudy_ok ok
  obtain ⟨newest, found, seen⟩ := newest_appendStudy studyable ok
  obtain ⟨metricData, source, grows⟩ := appendStudy_grows ok
  have ordered' := ordered.grow grows room
  have counted := grows.count
  have small : e.count < enrollmentCapacity := room.trans_le ordered.capacity
  have order : after.orderAt e.count = UInt32.ofNat e.count := by
    rw [orderAt_setMatchOrder grows.matchOrder small, if_pos rfl]
  have last : after.scheduledSubtemplate e.count = some (e.count, newest.view) := by
    have index : (UInt32.ofNat e.count).toNat = e.count :=
      toNat_ofNat_of_lt (small.trans (by decide))
    rw [scheduledSubtemplate, ordered'.getMatchOrderIndex (by omega), order, index,
      Option.bind_some, found, Option.map_some]
  have front : (List.range e.count).filterMap
      (fun schedule => (after.scheduledSubtemplate schedule).map visibleEntry) =
        (List.range e.count).filterMap
          fun schedule => (e.scheduledSubtemplate schedule).map visibleEntry :=
    List.filterMap_congr fun schedule listed =>
      ordered.visible_grows ordered' grows (List.mem_range.mp listed)
  have newEntry : [e.count].filterMap
      (fun schedule => (after.scheduledSubtemplate schedule).map visibleEntry) =
        [(e.count, probe.visible)] := by
    simp only [List.filterMap_cons, List.filterMap_nil, last, Option.map_some, visibleEntry, seen]
  rw [PrintMemory.remember, ordered.length_memory, memory, schedule, counted, List.range_succ,
    List.map_filterMap, List.filterMap_append, front, newEntry, memory, schedule,
    List.map_filterMap]

/-- Nor does the packed form show. -/
lemma memory_reload (storable : e.Storable) : e.reload.memory = e.memory :=
  visible_reload_schedule storable.packable
    (fun subtemplate listed => (storable.decoded subtemplate listed).prepared)
    fun subtemplate listed => (storable.decoded subtemplate listed).classified

end Enrollment

variable (sha256 : List UInt8 → Vector UInt8 calibrationDigestLength) {sensorId : SensorId}
  {data : PrintData} {gallery : Enrollment}

/-- One press of a print with room. -/
lemma Studied.memory_press {press : Press} {result : MatchTemplateResult} {after : Enrollment}
    (studied : Studied press.probe result gallery after) (storable : gallery.Storable)
    (studyable : press.probe.Studyable) (room : gallery.count < gallery.capacity)
    (matched : gallery.matchTemplateType24 press.probe runtimeSelectorThreshold = some result) :
    gallery.memory.press press.probe = some (result, after.memory) := by
  have ordered := storable.packable.ordered
  rw [PrintMemory.press, Enrollment.memory_matchProbe ordered, matched, Option.map_some]
  cases studied with
  | skipped idle => simp [idle]
  | appended selectedIndex grown studies _ ok =>
    rw [studies, Option.isSome_some, if_pos rfl,
      Enrollment.memory_reload (storable.append studyable ok).1,
      Enrollment.memory_appendStudy ordered studyable ok]
  | declined _ _ full => omega
  | replaced _ _ _ full => omega

/-- Any presses that leave room for each other. -/
lemma StoredPrint.life_refines (stored : StoredPrint sensorId data gallery)
    (presses : List Press) (studyable : ∀ press ∈ presses, press.probe.Studyable)
    (room : gallery.count + presses.length ≤ gallery.capacity) :
    ∃ results after gallery', life sha256 sensorId presses data = .ok (results, after) ∧
      StoredPrint sensorId after gallery' ∧
      gallery.memory.life (presses.map Press.probe) = some (results, gallery'.memory) := by
  induction presses generalizing data gallery with
  | nil => exact ⟨[], data, gallery, rfl, stored, rfl⟩
  | cons press rest ih =>
    rw [List.length_cons] at room
    have here := studyable press List.mem_cons_self
    obtain ⟨result, next, gallery₁, matched, once, stored₁, step⟩ :=
      stored.matchAndStudy sha256 here
    have seen := step.memory_press stored.storable here (by omega) matched
    obtain ⟨capacity, count⟩ := step.size
    have few : gallery₁.count ≤ gallery.count + 1 := by
      rw [count]
      split <;> omega
    obtain ⟨results, after, gallery', later, stored', refines⟩ :=
      ih stored₁ (fun other listed => studyable other (List.mem_cons_of_mem press listed))
        (by omega)
    refine ⟨result :: results, after, gallery', ?_, stored', ?_⟩
    · simp only [life, once, later, Bind.bind, Except.bind]
      rfl
    · rw [List.map_cons, PrintMemory.life, seen, Option.bind_some, refines, Option.map_some]

/-- Presses only add to a memory. -/
lemma PrintMemory.life_prefix {memory after : PrintMemory} {probes : List SubtemplateView}
    {results : List MatchTemplateResult} (lives : memory.life probes = some (results, after)) :
    memory <+: after := by
  induction probes generalizing memory results with
  | nil =>
    cases lives
    exact List.prefix_rfl
  | cons probe rest ih =>
    obtain ⟨⟨result, next⟩, once, later⟩ := Option.bind_eq_some_iff.mp lives
    obtain ⟨⟨results', last⟩, lives', same⟩ := Option.map_eq_some_iff.mp later
    cases same
    refine List.IsPrefix.trans ?_ (ih lives')
    obtain ⟨result', -, same⟩ := Option.map_eq_some_iff.mp once
    cases same
    split
    · exact List.prefix_append _ _
    · exact List.prefix_rfl

/-- While there is room for all of them, presses on a stored print give the results that they
would give on a gallery that never leaves memory, whatever the calibrations: nothing that packing
and loading lose is ever missed, and what was stored is kept. -/
theorem stored_print_refines_memory (stored : StoredPrint sensorId data gallery)
    (presses : List Press) (studyable : ∀ press ∈ presses, press.probe.Studyable)
    (room : gallery.count + presses.length ≤ gallery.capacity) :
    ∃ results after gallery', life sha256 sensorId presses data = .ok (results, after) ∧
      StoredPrint sensorId after gallery' ∧
      gallery.memory.life (presses.map Press.probe) = some (results, gallery'.memory) ∧
      gallery.memory <+: gallery'.memory := by
  obtain ⟨results, after, gallery', lives, stored', refines⟩ :=
    stored.life_refines sha256 presses studyable room
  exact ⟨results, after, gallery', lives, stored', refines, PrintMemory.life_prefix refines⟩

theorem stored_print_refines_memory_grid :
    ∃ results after gallery', life (fun _ => emptyDigest) gridSensor [gridPress, gridPress]
        gridPrint = .ok (results, after) ∧ StoredPrint gridSensor after gallery' ∧
      gridGallery.reload.memory.life [gridProbe, gridProbe] = some (results, gallery'.memory) ∧
      gridGallery.reload.memory <+: gallery'.memory :=
  stored_print_refines_memory (fun _ => emptyDigest) gridPrint_stored [gridPress, gridPress]
    (fun press listed => by
      have here : press = gridPress := by simpa using listed
      rw [here]
      exact gridProbe_studyable)
    (by decide)

/-- A finger that matches a stored print goes on matching it with the same result, whatever is
studied while there is room. -/
theorem stored_match_survives (stored : StoredPrint sensorId data gallery)
    {probe : SubtemplateView} {result : MatchTemplateResult}
    (matched : runtimeMatchPrintData probe (.native data) sensorId = .ok result)
    (positive : 0 < result.score) (presses : List Press)
    (studyable : ∀ press ∈ presses, press.probe.Studyable)
    (room : gallery.count + presses.length ≤ gallery.capacity) :
    ∃ results after gallery', life sha256 sensorId presses data = .ok (results, after) ∧
      StoredPrint sensorId after gallery' ∧
      runtimeMatchPrintData probe (.native after) sensorId =
        .ok { result with studyRelationCount := gallery'.count } := by
  obtain ⟨results, after, gallery', lives, stored', refines⟩ :=
    stored.life_refines sha256 presses studyable room
  refine ⟨results, after, gallery', lives, stored', ?_⟩
  have found := (stored.runtimeMatch_iff probe).mp matched
  obtain ⟨before, entry, rest, split, -, determined⟩ := matchTemplateType24_of_prefix found positive
  have earlier : (before ++ [entry]).map visibleEntry <+: gallery.memory := by
    rw [Enrollment.memory, split]
    exact ⟨rest.map visibleEntry, by simp⟩
  have small := stored'.storable.packable.ordered.count
  exact (stored'.runtimeMatch_iff probe).mpr
    (determined gallery' small (earlier.trans (PrintMemory.life_prefix refines)))

/-- The shifted grid matches the stored one before and after it is studied. -/
theorem stored_match_survives_grid :
    ∃ result results after, ∃ gallery' : Enrollment,
      runtimeMatchPrintData gridProbe (.native gridPrint) gridSensor = .ok result ∧
        0 < result.score ∧
        life (fun _ => emptyDigest) gridSensor [gridPress, gridPress] gridPrint =
          .ok (results, after) ∧
        runtimeMatchPrintData gridProbe (.native after) gridSensor =
          .ok { result with studyRelationCount := gallery'.count } := by
  have admitted : (gridGallery.matchTemplateType24 gridProbe runtimeSelectorThreshold).any
      (fun result => decide (0 < result.score)) = true := gridProbe_matches.2
  rw [← matchTemplateType24_congr gridProbe runtimeSelectorThreshold (reload_count gridGallery)
    (Enrollment.memory_reload gridGallery_storable)] at admitted
  obtain ⟨result, found, positive⟩ := (Option.any_eq_true _ _).mp admitted
  have matched := (gridPrint_stored.runtimeMatch_iff gridProbe).mpr found
  obtain ⟨results, after, gallery', lives, -, later⟩ :=
    stored_match_survives (fun _ => emptyDigest) gridPrint_stored matched
      (of_decide_eq_true positive) [gridPress, gridPress]
      (fun press listed => by
        have here : press = gridPress := by simpa using listed
        rw [here]
        exact gridProbe_studyable)
      (by decide)
  exact ⟨result, results, after, gallery', matched, of_decide_eq_true positive, lives, later⟩

end GoodixSpi.Chicago
