import GoodixSpi.Chicago.Match.Admission
import GoodixSpi.Chicago.Match.Visible
import GoodixSpi.Chicago.Packed.Lifecycle

/-! A match survives study. The scan never looks past the sub-template it admits, and an
appended sub-template comes last in match order. -/

namespace GoodixSpi.Chicago

/-- The scan goes past all of `before` and admits `entry`. -/
def FirstAdmitted (probe : SubtemplateView) (selectorThreshold : Int32)
    (before : List (Nat × SubtemplateView)) (entry : Nat × SubtemplateView) : Prop :=
  ∃ metricData reached scan, probe.metricData = some metricData ∧
    EarlyExit.run (matchCandidate probe selectorThreshold) before
      (.init metricData.packedResolution) = .next reached ∧
    matchCandidate probe selectorThreshold reached entry = .stop (some scan)

section Prefix

variable {e other : Enrollment} {probe : SubtemplateView} {selectorThreshold : Int32}

/-- The result of an admitting scan does not look at the schedule any more. -/
lemma matchTemplateType24_of_stop (few : e.count ≤ enrollmentCapacity) {metricData : MetricData}
    (given : probe.metricData = some metricData) {scan : MatchScan}
    (run : EarlyExit.run (matchCandidate probe selectorThreshold) e.schedule
      (.init metricData.packedResolution) = .stop (some scan)) :
    e.matchTemplateType24 probe selectorThreshold =
      some { scan.finish [] probe selectorThreshold with studyRelationCount := e.count } := by
  have accepted := (finish_of_stop run).1
  have same : scan.finish e.schedule probe selectorThreshold =
      scan.finish [] probe selectorThreshold := by
    simp only [MatchScan.finish, if_pos accepted]
  have guard : ¬e.count > enrollmentCapacity := by omega
  simp only [Enrollment.matchTemplateType24, if_neg guard, given, matchSchedule, run,
    Option.map_some, same]

/-- Two schedules that look alike up to an admission stop in the same state. -/
lemma run_of_alike {metricData : MetricData} {before : List (Nat × SubtemplateView)}
    {entry : Nat × SubtemplateView} {reached scan : MatchScan}
    (went : EarlyExit.run (matchCandidate probe selectorThreshold) before
      (.init metricData.packedResolution) = .next reached)
    (admitted : matchCandidate probe selectorThreshold reached entry = .stop (some scan))
    {schedule : List (Nat × SubtemplateView)}
    (starts : (before ++ [entry]).map visibleEntry <+: schedule.map visibleEntry) :
    EarlyExit.run (matchCandidate probe selectorThreshold) schedule
      (.init metricData.packedResolution) = .stop (some scan) := by
  obtain ⟨rest, split⟩ := starts
  rw [← run_visible, ← split, EarlyExit.run_append, run_visible, EarlyExit.run_append, went]
  simp only [EarlyExit.run, admitted]

/-- The verdict depends on the sub-templates up to the first admitted one only. -/
lemma matchTemplateType24_of_prefix {result : MatchTemplateResult}
    (matched : e.matchTemplateType24 probe selectorThreshold = some result)
    (positive : 0 < result.score) :
    ∃ before entry rest, e.schedule = before ++ entry :: rest ∧
      FirstAdmitted probe selectorThreshold before entry ∧
      ∀ other : Enrollment, other.count ≤ enrollmentCapacity →
        (before ++ [entry]).map visibleEntry <+: other.schedule.map visibleEntry →
        other.matchTemplateType24 probe selectorThreshold =
          some { result with studyRelationCount := other.count } := by
  obtain ⟨few, metricData, scan, given, run⟩ := (matchTemplateType24_score matched).2.mp positive
  rw [matchTemplateType24_of_stop few given run] at matched
  cases matched
  obtain ⟨before, entry, rest, reached, split, went, admitted⟩ := EarlyExit.run_eq_stop run
  refine ⟨before, entry, rest, split, ⟨metricData, reached, scan, given, went, admitted⟩, ?_⟩
  intro other fits starts
  exact matchTemplateType24_of_stop fits given (run_of_alike went admitted starts)

end Prefix

/-! ### The schedule after study -/

namespace Enrollment

variable {e after : Enrollment}

lemma Ordered.getMatchOrderIndex (h : e.Ordered) {schedule : Nat} (used : schedule < e.count) :
    e.getMatchOrderIndex schedule = some (e.orderAt schedule).toNat := by
  have inside : schedule < enrollmentCapacity := used.trans_le h.count
  have below := h.scheduled.below schedule used
  rw [orderAt_eq inside] at below ⊢
  rw [Enrollment.getMatchOrderIndex, dif_pos inside, if_neg (by omega)]

/-- The group state and the study counters do not show. -/
lemma visible_of_core {a b : Subtemplate} (same : a.core = b.core) :
    a.view.visible = b.view.visible := by
  have blank : ∀ subtemplate : Subtemplate,
      subtemplate.core.view.visible = subtemplate.view.visible := fun _ => rfl
  rw [← blank a, same, blank b]

/-- Growth leaves the scheduled sub-templates where they were. -/
lemma Ordered.visible_grows (h : e.Ordered) (ordered : after.Ordered) {added : Subtemplate}
    {block : Nat} (grows : Grows e after added block) {schedule : Nat} (used : schedule < e.count) :
    (after.scheduledSubtemplate schedule).map visibleEntry =
      (e.scheduledSubtemplate schedule).map visibleEntry := by
  have counted := grows.count
  have room : e.count < enrollmentCapacity := by
    have few := ordered.count
    omega
  have order : after.orderAt schedule = e.orderAt schedule := by
    rw [orderAt_setMatchOrder grows.matchOrder room, if_neg (by omega)]
  have below := h.scheduled.below schedule used
  have core : after.subtemplates[(e.orderAt schedule).toNat]?.map Subtemplate.core =
      e.subtemplates[(e.orderAt schedule).toNat]?.map Subtemplate.core := by
    rw [← List.getElem?_map, ← List.getElem?_map, grows.cores, List.getElem?_append_left]
    rw [List.length_map]
    exact below
  simp only [scheduledSubtemplate, h.getMatchOrderIndex used,
    ordered.getMatchOrderIndex (show schedule < after.count by omega), order, Option.bind_some]
  cases found : e.subtemplates[(e.orderAt schedule).toNat]? with
  | none =>
    rw [found] at core
    rw [Option.map_eq_none_iff.mp core]
  | some subtemplate =>
    rw [found, Option.map_some] at core
    obtain ⟨grown, here, same⟩ := Option.map_eq_some_iff.mp core
    simp only [here, Option.map_some, visibleEntry, visible_of_core same]

lemma Ordered.schedule_grows (h : e.Ordered) (ordered : after.Ordered) {added : Subtemplate}
    {block : Nat} (grows : Grows e after added block) :
    e.schedule.map visibleEntry <+: after.schedule.map visibleEntry := by
  refine ⟨([e.count].filterMap after.scheduledSubtemplate).map visibleEntry, ?_⟩
  simp only [schedule, grows.count, List.range_succ, List.filterMap_append, List.map_append,
    List.map_filterMap]
  refine congrArg (· ++ _) (List.filterMap_congr fun schedule listed => ?_)
  exact (h.visible_grows ordered grows (List.mem_range.mp listed)).symm

end Enrollment

/-- Study cannot lose a match. The score lies in -7 .. 100 and is positive exactly when a
candidate was admitted; then an appended sub-template changes nothing but the number of
relations, and neither does any other enrollment that looks the same up to the first
admitted sub-template. -/
theorem study_keeps_match {e : Enrollment} (h : Obtainable e) {probe : SubtemplateView}
    {selectorThreshold : Int32} {result : MatchTemplateResult}
    (matched : e.matchTemplateType24 probe selectorThreshold = some result) :
    (-7 ≤ result.score ∧ result.score ≤ 100) ∧
      (0 < result.score ↔ e.Admits probe selectorThreshold) ∧
      (0 < result.score →
        (∀ study selectedIndex relations after appended,
          e.appendStudy study selectedIndex relations = .ok (after, appended) →
          after.matchTemplateType24 probe selectorThreshold =
            some { result with studyRelationCount := after.count }) ∧
        ∃ before entry rest, e.schedule = before ++ entry :: rest ∧
          FirstAdmitted probe selectorThreshold before entry ∧
          ∀ other : Enrollment, other.count ≤ enrollmentCapacity →
            (before ++ [entry]).map visibleEntry <+: other.schedule.map visibleEntry →
            other.matchTemplateType24 probe selectorThreshold =
              some { result with studyRelationCount := other.count }) := by
  obtain ⟨range, admits⟩ := matchTemplateType24_score matched
  refine ⟨range, admits, fun positive => ?_⟩
  obtain ⟨before, entry, rest, split, first, determined⟩ :=
    matchTemplateType24_of_prefix matched positive
  refine ⟨fun study selectedIndex relations after appended ok => ?_, before, entry, rest, split,
    first, determined⟩
  have step : e.step (.appendStudy study selectedIndex relations) = some after := by
    simp only [Enrollment.step, ok]
    rfl
  have ordered := h.ordered.step step
  obtain ⟨metricData, source, grows⟩ := Enrollment.appendStudy_grows ok
  have earlier : (before ++ [entry]).map visibleEntry <+: e.schedule.map visibleEntry :=
    ⟨rest.map visibleEntry, by simp [split]⟩
  exact determined after ordered.count (earlier.trans (h.ordered.schedule_grows ordered grows))

/-- The shifted grid matches the unshifted one, also at the threshold of the runtime. -/
lemma gridProbe_matches :
    (gridGallery.matchTemplateType24 gridProbe 200).any
        (fun result => decide (0 < result.score)) = true ∧
      (gridGallery.matchTemplateType24 gridProbe 207).any
        (fun result => decide (0 < result.score)) = true := by
  decide +kernel

/-- The shifted grid is admitted, before and after it is studied. -/
theorem study_keeps_match_grid :
    ∃ result after appended,
      gridGallery.matchTemplateType24 gridProbe 200 = some result ∧ 0 < result.score ∧
        gridGallery.appendStudy gridProbe 0 [sentinelRelation] = .ok (after, appended) ∧
        after.matchTemplateType24 gridProbe 200 =
          some { result with studyRelationCount := after.count } := by
  obtain ⟨result, matched, positive⟩ := (Option.any_eq_true _ _).mp gridProbe_matches.1
  have obtained : Obtainable gridGallery := ⟨_, .inl rfl, .step .start trivial step_gridGallery⟩
  have ok : gridGallery.appendStudy gridProbe 0 [sentinelRelation] = .ok (_, gridGallery.count) :=
    rfl
  have kept := (study_keeps_match obtained matched).2.2 (of_decide_eq_true positive)
  exact ⟨result, _, _, matched, of_decide_eq_true positive, ok, kept.1 _ _ _ _ _ ok⟩

end GoodixSpi.Chicago
