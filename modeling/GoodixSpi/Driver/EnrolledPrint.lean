import GoodixSpi.Chicago.PrintMemory
import GoodixSpi.Driver.Enroll

/-! From captures to a stored print: what the enrollment loop leaves can be packed, and the print
that is stored matches like the enrollment it came from. -/

namespace GoodixSpi.Chicago

/-- A sample as `goodix_chicago_runtime_prepare_probe` hands it over. -/
structure Sample.Proper (sample : Sample) : Prop where
  metric : sample.metricData.isSome = true
  prepared : ∀ record ∈ sample.records, record.Prepared
  classified : ∀ index record, sample.records[index]? = some record →
    record.foregroundClass = if index < sample.activeCount then 0 else 1

namespace Enrollment

/-- An enrollment that was made of proper samples. -/
structure MadeOfProper (e : Enrollment) : Prop where
  layout : Layout e
  metric : ∀ subtemplate ∈ e.subtemplates, subtemplate.hasMetricData = true
  decoded : ∀ subtemplate ∈ e.subtemplates, subtemplate.Decoded

variable {e after : Enrollment} {sample : Sample} {result : EnrollmentResult}

lemma madeOfProper_new : new.MadeOfProper where
  layout := .new
  metric _ listed := absurd listed List.not_mem_nil
  decoded _ listed := absurd listed List.not_mem_nil

lemma MadeOfProper.storable (made : e.MadeOfProper) : e.Storable :=
  .of_layout made.layout made.metric made.decoded

lemma Sample.Proper.decoded (proper : sample.Proper) {subtemplate : Subtemplate}
    (records : subtemplate.records = sample.records)
    (active : subtemplate.activeCount = sample.activeCount) : subtemplate.Decoded := by
  constructor
  · rw [records]
    exact proper.prepared
  · intro index record found
    rw [records] at found
    rw [active]
    exact proper.classified index record found

lemma MadeOfProper.insertFirst (made : e.MadeOfProper) (proper : sample.Proper)
    (ok : e.insertFirst sample = .ok (after, result)) : after.MadeOfProper := by
  have step : e.step (.insertFirst sample) = some after := by
    rw [Enrollment.step, ok]
    rfl
  obtain ⟨-, -, -, same⟩ := insertFirst_ok ok
  have listed : ∀ subtemplate ∈ after.subtemplates, subtemplate ∈ e.subtemplates ∨
      subtemplate = .fresh sample.records sample.activeCount sample.quality sample.coverage
        sample.metricData e.count := by
    intro subtemplate here
    rw [same] at here
    rcases List.mem_append.mp here with old | new
    · exact .inl old
    · exact .inr (List.mem_singleton.mp new)
  refine ⟨made.layout.step step, fun subtemplate here => ?_, fun subtemplate here => ?_⟩
  · rcases listed subtemplate here with old | rfl
    · exact made.metric subtemplate old
    · exact proper.metric
  · rcases listed subtemplate here with old | rfl
    · exact made.decoded subtemplate old
    · exact Sample.Proper.decoded proper rfl rfl

lemma MadeOfProper.insertNext (made : e.MadeOfProper) (proper : sample.Proper)
    (ok : e.insertNext sample = .ok (after, result)) : after.MadeOfProper := by
  have step : e.step (.insertNext sample) = some after := by
    rw [Enrollment.step, ok]
    rfl
  obtain ⟨metricData, -, -, -, -, -, -, rfl⟩ := insertNext_ok ok
  have grows := (insertCompared_outcome e sample metricData
    (e.subtemplates.map (compare sample metricData))).grows
  refine ⟨made.layout.step step, ?_, ?_⟩
  · refine grows.forall_core (fun a b same old => ?_) made.metric rfl
    exact (Subtemplate.content_of_core same).2.2.trans old
  · refine grows.forall_core (fun a b same old => ?_) made.decoded
      (Sample.Proper.decoded proper rfl rfl)
    obtain ⟨records, active, -⟩ := Subtemplate.content_of_core same
    exact old.congr records active

lemma MadeOfProper.dropLast (made : e.MadeOfProper) (ok : e.dropLast = .ok after) :
    after.MadeOfProper := by
  have step : e.step .dropLast = some after := by
    rw [Enrollment.step, ok]
    rfl
  obtain ⟨earlier, last, split, rfl⟩ := dropLast_ok ok
  have kept : ∀ subtemplate ∈ (e.dropped earlier last).subtemplates,
      subtemplate ∈ e.subtemplates := by
    intro subtemplate here
    rw [split]
    exact List.mem_append_left _ here
  exact ⟨made.layout.step step, fun subtemplate here => made.metric subtemplate (kept _ here),
    fun subtemplate here => made.decoded subtemplate (kept _ here)⟩

end Enrollment

end GoodixSpi.Chicago

namespace GoodixSpi.Driver

open Chicago

/-- A turn whose probe, if it has one, is proper. -/
def Turn.Proper (turn : Turn) : Prop :=
  ∀ probe, turn.capture = .prepared probe → probe.Proper

namespace EnrollLoop

/-- Only proper samples are in the enrollment and aside. -/
structure Clean (l : EnrollLoop) : Prop where
  made : l.enrollment.MadeOfProper
  aside : ∀ probe, l.deferredProbe = some probe → probe.Proper

variable {self next : EnrollLoop} {probe : Sample}

lemma Clean.insert (clean : self.Clean) (proper : probe.Proper) {inserted : Enrollment}
    {result : EnrollmentResult} (ok : self.insert probe = .ok (inserted, result)) :
    inserted.MadeOfProper := by
  unfold EnrollLoop.insert at ok
  split at ok
  · exact clean.made.insertFirst proper ok
  · exact clean.made.insertNext proper ok

lemma Clean.defer (clean : self.Clean) (proper : probe.Proper) (ok : self.defer probe = .ok next) :
    next.Clean := by
  unfold EnrollLoop.defer at ok
  split at ok
  · split at ok
    · cases ok
    · split at ok
      · cases ok
      · next dropped =>
        cases ok
        refine ⟨clean.made.dropLast dropped, fun other kept => ?_⟩
        cases kept
        exact proper
  · cases ok
    exact clean

lemma Clean.restore (clean : self.Clean) (ok : self.restore = .ok next) : next.Clean := by
  unfold EnrollLoop.restore at ok
  split at ok
  · split at ok
    · cases ok
    · next probe aside =>
      split at ok
      · cases ok
      · next restored _ inserted =>
        cases ok
        exact ⟨clean.made.insertNext (clean.aside probe aside) inserted, nofun⟩
  · cases ok
    exact clean

lemma Clean.round (clean : self.Clean) {turn : Turn} (proper : turn.Proper)
    (ok : self.round turn = .ok next) : next.Clean := by
  unfold EnrollLoop.round at ok
  split at ok
  · cases ok
  · split at ok
    · cases ok
      exact ⟨clean.made, clean.aside⟩
    · cases ok
  · next probe captured =>
    have given := proper probe captured
    split at ok
    · cases ok
    · next inserted result inserts =>
      dsimp only at ok
      split at ok
      · cases ok
      · next deferred defers =>
        split at ok
        · cases ok
        · next restored restores =>
          have made := clean.insert given inserts
          have accepted : Clean { self with
              enrollment := inserted
              policy := (self.policy.accept (result.positionX, result.positionY)).policy } :=
            ⟨made, clean.aside⟩
          have after := accepted.defer given defers
          have kept := after.restore restores
          split at ok
          · cases ok
            exact ⟨kept.made, kept.aside⟩
          · cases ok

lemma Clean.run (clean : self.Clean) {turns rest : List Turn}
    (proper : ∀ turn ∈ turns, turn.Proper) (ran : self.run turns = .ok (next, rest)) :
    next.Clean := by
  induction turns generalizing self with
  | nil =>
    cases ran
    exact clean
  | cons turn later ih =>
    unfold EnrollLoop.run at ran
    split at ran
    · cases ran
      exact clean
    · split at ran
      · cases ran
      · next once round =>
        exact ih (clean.round (proper turn List.mem_cons_self) round)
          (fun other listed => proper other (List.mem_cons_of_mem turn listed)) ran

end EnrollLoop

/-- What an enrollment ends with is packed into a print of the sensor, which every probe matches
exactly as it matches the enrollment itself. -/
theorem enrolled_print_matches (sha256 : List UInt8 → Vector UInt8 calibrationDigestLength)
    (sensorId : SensorId) (calibration : List UInt8) {turns rest : List Turn}
    (proper : ∀ turn ∈ turns, turn.Proper) {finished : EnrollLoop}
    (ran : EnrollLoop.start.run turns = .ok (finished, rest)) :
    ∃ bytes gallery, finished.enrollment.pack = .ok bytes ∧
      StoredPrint sensorId (printDataBuild sha256 sensorId calibration bytes) gallery ∧
      gallery.count = finished.enrollment.count ∧ gallery.capacity = enrollmentCapacity ∧
      ∀ probe result, runtimeMatchPrintData probe
          (.native (printDataBuild sha256 sensorId calibration bytes)) sensorId = .ok result ↔
        finished.enrollment.matchTemplateType24 probe runtimeSelectorThreshold = some result := by
  have start : EnrollLoop.start.Clean := ⟨Enrollment.madeOfProper_new, nofun⟩
  have made := (start.run proper ran).made
  have storable := made.storable
  obtain ⟨packed, stored⟩ := storedPrint_build sha256 storable calibration
  refine ⟨_, _, packed, stored, reload_count _, made.layout.capacity, fun probe result => ?_⟩
  rw [stored.runtimeMatch_iff probe, matchTemplateType24_congr probe runtimeSelectorThreshold
    (reload_count _) (Enrollment.memory_reload storable)]

lemma gridSample_proper : (gridSample false 1).Proper where
  metric := rfl
  prepared := by
    intro record listed
    obtain ⟨index, inside, rfl⟩ := List.mem_map.mp listed
    exact gridRecord_prepared (List.mem_range.mp inside)
  classified := by
    intro index record found
    obtain ⟨slot, inside, rfl⟩ := List.mem_map.mp (List.mem_of_getElem? found)
    have active : index < 21 := by
      simpa [gridSample] using (List.getElem?_eq_some_iff.mp found).1
    show _ = if index < 21 then (0 : UInt16) else 1
    rw [if_pos active]
    exact UInt16.zero_and

/-- One capture of the grid. -/
def gridTurn : Turn := ⟨.prepared (gridSample false 1), true⟩

theorem enrolled_print_matches_grid :
    ∃ finished bytes gallery, EnrollLoop.start.run [gridTurn] = .ok (finished, []) ∧
      finished.enrollment.pack = .ok bytes ∧
      StoredPrint gridSensor (printDataBuild (fun _ => emptyDigest) gridSensor [] bytes) gallery ∧
      gallery.count = 1 := by
  have proper : ∀ turn ∈ [gridTurn], turn.Proper := by
    intro turn listed probe captured
    rw [List.mem_singleton.mp listed] at captured
    cases captured
    exact gridSample_proper
  have ran : EnrollLoop.start.run [gridTurn] = .ok (_, []) := rfl
  obtain ⟨bytes, gallery, packed, stored, counted, -⟩ :=
    enrolled_print_matches (fun _ => emptyDigest) gridSensor [] proper ran
  exact ⟨_, bytes, gallery, ran, packed, stored, counted⟩

end GoodixSpi.Driver
