import GoodixSpi.Chicago.Match.Admission
import GoodixSpi.Chicago.Packed.RoundTrip

/-! The sub-template that a match selects for study is one of the gallery. -/

namespace GoodixSpi.Chicago

/-- Rounds that do not end the scan select nothing; the round that does selects its own entry, if
it selects one. -/
lemma matchCandidate_selects (probe : SubtemplateView) (selectorThreshold : Int32)
    (scan : MatchScan) (entry : Nat × SubtemplateView) :
    (matchCandidate probe selectorThreshold scan entry).Meets
      (fun after => after.result.selectedIndex = scan.result.selectedIndex)
      (fun outcome => ∀ admitted, outcome = some admitted →
        admitted.result.selectedIndex = scan.result.selectedIndex ∨
          admitted.result.selectedIndex = some entry.1) := by
  have noted : ∀ (scan : MatchScan) status index geometry,
      (scan.noteRelation status index geometry).result.selectedIndex =
        scan.result.selectedIndex := by
    intro scan status index geometry
    unfold MatchScan.noteRelation
    split <;> rfl
  obtain ⟨index, gallery⟩ := entry
  unfold matchCandidate
  dsimp only
  cases gallery.metricData with
  | none =>
    intro admitted none_
    cases none_
  | some metricData =>
    dsimp only
    generalize scoreSubtemplateType24 gallery probe = scored
    split
    · rfl
    · generalize candidateVerdict probe _ _ _ _ _ = verdict
      split
      · exact noted _ _ _ _
      · split
        · intro admitted found
          cases found
          unfold MatchScan.acceptCandidate
          dsimp only
          split
          · exact .inr rfl
          · exact .inl (noted _ _ _ _)
        · exact noted _ _ _ _

lemma matchCandidate_stop_none {probe : SubtemplateView} {selectorThreshold : Int32}
    {scan : MatchScan} {entry : Nat × SubtemplateView}
    (stopped : matchCandidate probe selectorThreshold scan entry = .stop none) :
    entry.2.metricData = none := by
  obtain ⟨index, gallery⟩ := entry
  unfold matchCandidate at stopped
  dsimp only at stopped
  split at stopped
  · next missing => exact missing
  · generalize scoreSubtemplateType24 gallery probe = scored at stopped
    split at stopped
    · cases stopped
    · generalize candidateVerdict probe _ _ _ _ _ = verdict at stopped
      split at stopped
      · cases stopped
      · split at stopped <;> cases stopped

namespace Enrollment

variable {e : Enrollment} {probe : SubtemplateView} {selectorThreshold : Int32}

lemma mem_schedule {entry : Nat × SubtemplateView} (listed : entry ∈ e.schedule) :
    entry.1 < e.count ∧ ∃ subtemplate ∈ e.subtemplates, entry.2 = subtemplate.view := by
  obtain ⟨schedule, -, found⟩ := List.mem_filterMap.mp listed
  obtain ⟨index, -, here⟩ := Option.bind_eq_some_iff.mp found
  obtain ⟨subtemplate, there, rfl⟩ := Option.map_eq_some_iff.mp here
  exact ⟨(List.getElem?_eq_some_iff.mp there).1, subtemplate, List.mem_of_getElem? there, rfl⟩

/-- A scan that goes on has selected nothing. -/
lemma selectedIndex_of_next {entries : List (Nat × SubtemplateView)} {resolution : UInt32}
    {scan : MatchScan} (went : EarlyExit.run (matchCandidate probe selectorThreshold) entries
      (.init resolution) = .next scan) : scan.result.selectedIndex = none := by
  have idle := @EarlyExit.run_meets _ _ _ (matchCandidate probe selectorThreshold)
    (fun scan => scan.result.selectedIndex = none) (fun _ => True)
    (fun scan entry none_ => by
      have round := matchCandidate_selects probe selectorThreshold scan entry
      cases here : matchCandidate probe selectorThreshold scan entry with
      | next after =>
        rw [here] at round
        exact Eq.trans round none_
      | stop outcome => trivial) entries (.init resolution) rfl
  rw [went] at idle
  exact idle

/-- A selected index is one of the schedule. -/
lemma selectedIndex_of_run {entries : List (Nat × SubtemplateView)} {resolution : UInt32}
    {scan : MatchScan} (stopped : EarlyExit.run (matchCandidate probe selectorThreshold) entries
      (.init resolution) = .stop (some scan)) {index : Nat}
    (selected : scan.result.selectedIndex = some index) : ∃ entry ∈ entries, entry.1 = index := by
  obtain ⟨before, entry, rest, reached, split, went, admitted⟩ := EarlyExit.run_eq_stop stopped
  have round := matchCandidate_selects probe selectorThreshold reached entry
  rw [admitted] at round
  have none_ := selectedIndex_of_next went
  rcases round scan rfl with same | same
  · rw [same, none_] at selected
    cases selected
  · rw [same, Option.some.injEq] at selected
    exact ⟨entry, by rw [split]; simp, selected⟩

/-- What study relies on in the result of a match. -/
lemma matchTemplateType24_spec (packable : e.Packable) (metric : probe.metricData.isSome = true)
    (selectorThreshold : Int32) :
    ∃ result, e.matchTemplateType24 probe selectorThreshold = some result ∧
      result.studyRelationCount = e.count ∧
      ∀ index, result.selectedIndex = some index → index < e.count := by
  obtain ⟨metricData, given⟩ := Option.isSome_iff_exists.mp metric
  have few : ¬e.count > enrollmentCapacity := by
    have small := packable.count.trans packable.capacity
    omega
  have inSchedule : ∀ {scan : MatchScan},
      EarlyExit.run (matchCandidate probe selectorThreshold) e.schedule
        (.init metricData.packedResolution) = .stop (some scan) →
      ∀ index, scan.result.selectedIndex = some index → index < e.count := by
    intro scan stopped index selected
    obtain ⟨entry, listed, rfl⟩ := selectedIndex_of_run stopped selected
    exact (mem_schedule listed).1
  have unselected : ∀ {scan : MatchScan},
      (scan.finish e.schedule probe selectorThreshold).selectedIndex =
        scan.result.selectedIndex := by
    intro scan
    unfold MatchScan.finish
    split <;> rfl
  unfold matchTemplateType24
  rw [if_neg few, given]
  dsimp only
  unfold matchSchedule
  cases run : EarlyExit.run (matchCandidate probe selectorThreshold) e.schedule
      (.init metricData.packedResolution) with
  | next scan =>
    refine ⟨_, rfl, rfl, fun index selected => ?_⟩
    rw [unselected, selectedIndex_of_next run] at selected
    cases selected
  | stop outcome =>
    cases outcome with
    | none =>
      obtain ⟨before, entry, rest, reached, split, -, stopped⟩ := EarlyExit.run_eq_stop run
      obtain ⟨-, subtemplate, listed, same⟩ := mem_schedule (show entry ∈ e.schedule by
        rw [split]
        simp)
      have missing := matchCandidate_stop_none stopped
      rw [same, Subtemplate.view, (packable.subtemplates subtemplate listed).metric] at missing
      cases missing
    | some scan =>
      refine ⟨_, rfl, rfl, fun index selected => ?_⟩
      rw [unselected] at selected
      exact inSchedule run index selected

end Enrollment

end GoodixSpi.Chicago
