import GoodixSpi.Driver.MatchAction

/-! One verdict per action. A loop over the attempts that is left has decided nothing, or it
has reported a refusal already, or it holds the match that the completion reports. -/

namespace GoodixSpi.Driver

open Chicago

variable {Probe Print Data : Type}

/-! ### What an action tells the device -/

namespace Event

def reportOf : Event Print Data → Option (Report Print)
  | .report sent => some sent
  | _ => none

def updateOf : Event Print Data → Option (Print × Data)
  | .update print studied => some (print, studied)
  | _ => none

def completionOf : Event Print Data → Option (Option DriverError)
  | .complete error _ => some error
  | _ => none

end Event

def reports (events : List (Event Print Data)) : List (Report Print) :=
  events.filterMap Event.reportOf

def updates (events : List (Event Print Data)) : List (Print × Data) :=
  events.filterMap Event.updateOf

def completions (events : List (Event Print Data)) : List (Option DriverError) :=
  events.filterMap Event.completionOf

/-- The print that a report says was matched. -/
def Report.matched (action : Action Print) : Report Print → Option Print
  | .verify .success _ =>
    match action with
    | .verify template => some template
    | .identify _ => none
  | .verify _ _ => none
  | .identify print _ => print

/-- The print to report for a best score: the template, or the first print of the gallery
that no other one outscores. -/
def Action.FirstBest (matches_ : Print → Except DriverError MatchTemplateResult) (best : Int) :
    Action Print → Print → Prop
  | .verify template, print => print = template
  | .identify gallery, print => ∃ earlier later, gallery = earlier ++ print :: later ∧
      (∀ other ∈ earlier, ∃ result, matches_ other = .ok result ∧ result.score < best) ∧
      ∀ other ∈ later, ∃ result, matches_ other = .ok result ∧ result.score ≤ best

/-- A match was earned by a probe: it is its score that is positive and best, and what is
studied is that probe with that result. -/
structure Earned (runtime : Runtime Probe Print Data) (action : Action Print) (probe : Probe)
    (print : Print) (result : MatchTemplateResult) : Prop where
  matched : runtime.matchPrint probe print = .ok result
  positive : 0 < result.score
  best : action.FirstBest (runtime.matchPrint probe) result.score print

/-- What may come before a completion with an error, and before one without. -/
def Verdict (runtime : Runtime Probe Print Data) (action : Action Print) (shots : Nat → Shot Probe)
    (attempts : Nat) (before : List (Event Print Data)) : Option DriverError → Prop
  | some _ => reports before = [] ∧ updates before = []
  | none => ∃ report, reports before = [report] ∧
      match report.matched action with
      | none => updates before = []
      | some print => ∃ probe result, shots attempts = .frame (.prepared probe) ∧
          Earned runtime action probe print result ∧
          (updates before = [] ∨ ∃ data, updates before = [(print, data)] ∧
            runtime.studyPrint probe print result = .ok (some data))

/-- Events that say nothing about a match. -/
def Quiet (events : List (Event Print Data)) : Prop :=
  ∀ event ∈ events, ∃ status, event = .fingerStatus status

lemma Quiet.append {first second : List (Event Print Data)} (quiet : Quiet first)
    (quiet' : Quiet second) : Quiet (first ++ second) := by
  intro event listed
  rcases List.mem_append.mp listed with left | right
  · exact quiet event left
  · exact quiet' event right

lemma Quiet.silent {events : List (Event Print Data)} (quiet : Quiet events) :
    reports events = [] ∧ updates events = [] ∧ completions events = [] := by
  refine ⟨?_, ?_, ?_⟩
  all_goals
    refine List.filterMap_eq_nil_iff.mpr fun event listed => ?_
    obtain ⟨status, rfl⟩ := quiet event listed
    rfl

/-! ### The gallery -/

/-- What the scan knows of the prints behind it. -/
inductive ScanOf (runtime : Runtime Probe Print Data) (probe : Probe) (seen : List Print) :
    Runtime.GalleryScan Print → Prop
  | nothing (result : MatchTemplateResult) (valid : Bool)
      (lost : ∀ other ∈ seen, ∃ result, runtime.matchPrint probe other = .ok result ∧
        result.score ≤ 0) :
      ScanOf runtime probe seen ⟨none, -2 ^ 31, result, valid⟩
  | best (print : Print) (result : MatchTemplateResult)
      (earned : Earned runtime (.identify seen) probe print result) :
      ScanOf runtime probe seen ⟨some print, result.score, result, true⟩

section Gallery

variable {runtime : Runtime Probe Print Data} {probe : Probe} {seen : List Print}

lemma mem_concat_cases {item last : Print} (listed : item ∈ seen ++ [last]) :
    item ∈ seen ∨ item = last := by
  rcases List.mem_append.mp listed with old | new
  · exact .inl old
  · exact .inr (List.mem_singleton.mp new)

/-- Nobody behind the scan outscores the best print so far. -/
lemma Earned.seen_le {print other : Print} {result : MatchTemplateResult}
    (h : Earned runtime (.identify seen) probe print result) (listed : other ∈ seen) :
    ∃ found, runtime.matchPrint probe other = .ok found ∧ found.score ≤ result.score := by
  obtain ⟨earlier, later, split, below, above⟩ := h.best
  rw [split] at listed
  rcases List.mem_append.mp listed with old | here
  · obtain ⟨found, matched, less⟩ := below other old
    exact ⟨found, matched, less.le⟩
  · rcases List.mem_cons.mp here with rfl | new
    · exact ⟨result, h.matched, le_refl _⟩
    · exact above other new

lemma considerPrint_scanOf {scan : Runtime.GalleryScan Print} (h : ScanOf runtime probe seen scan)
    (candidate : Print) :
    (runtime.considerPrint probe scan candidate).Meets
      (ScanOf runtime probe (seen ++ [candidate])) fun _ => True := by
  unfold Runtime.considerPrint
  cases matched : runtime.matchPrint probe candidate with
  | error error => exact trivial
  | ok matchResult =>
    dsimp only
    cases h with
    | nothing result valid lost =>
      split
      · next wins =>
        refine .best candidate matchResult ⟨matched, wins.1, seen, [], rfl, ?_, ?_⟩
        · intro other listed
          obtain ⟨found, here, low⟩ := lost other listed
          exact ⟨found, here, by omega⟩
        · exact fun _ listed => absurd listed List.not_mem_nil
      · next loses =>
        refine .nothing result valid fun other listed => ?_
        rcases mem_concat_cases listed with old | rfl
        · exact lost other old
        · refine ⟨matchResult, matched, ?_⟩
          by_contra positive
          refine loses ⟨by omega, ?_⟩
          dsimp only
          omega
    | best print result earned =>
      have positive := earned.positive
      split
      · next wins =>
        refine .best candidate matchResult ⟨matched, wins.1, seen, [], rfl, ?_, ?_⟩
        · intro other listed
          obtain ⟨found, here, low⟩ := earned.seen_le listed
          have better : result.score < matchResult.score := wins.2
          exact ⟨found, here, by omega⟩
        · exact fun _ listed => absurd listed List.not_mem_nil
      · next loses =>
        obtain ⟨earlier, later, split, below, above⟩ := earned.best
        refine .best print result ⟨earned.matched, positive, earlier, later ++ [candidate], ?_,
          below, ?_⟩
        · rw [split, List.append_assoc, List.cons_append]
        · intro other listed
          rcases mem_concat_cases listed with old | rfl
          · exact above other old
          · refine ⟨matchResult, matched, ?_⟩
            by_contra more
            exact loses ⟨by omega, by simpa using more⟩

end Gallery

/-! ### One attempt -/

/-- Nothing is decided, apart from an error. -/
structure Idle (l : MatchLocals Probe Print Data) (error : Option DriverError) : Prop where
  error : l.error = error
  reported : l.reported = false
  reportSent : l.reportSent = false
  reportedMatch : l.reportedMatch = false
  quiet : Quiet l.events

/-- How the loop over the attempts may be left at its end. -/
inductive Decided (runtime : Runtime Probe Print Data) (action : Action Print)
    (shots : Nat → Shot Probe) (l : MatchLocals Probe Print Data) : Prop
  | open_ (idle : Idle l none)
  | refused (error : l.error = none) (reported : l.reported = true) (sent : l.reportSent = true)
      (unmatched : l.reportedMatch = false) (quiet : List (Event Print Data)) (silent : Quiet quiet)
      (events : l.events = quiet ++ [.report (action.report .fail none none)])
  | matched (error : l.error = none) (reported : l.reported = true) (unsent : l.reportSent = false)
      (matched : l.reportedMatch = true) (quiet : Quiet l.events) (probe : Probe)
      (shot : shots l.attempts = .frame (.prepared probe)) (kept : l.probe = some probe)
      (print : Print) (earned : Earned runtime action probe print l.finalMatchResult)
      (valid : l.finalMatchResultValid = true)
      (about : action.matchedPrint l.finalIdentifyMatch = some print)
      (verdict : (action.report l.finalVerifyResult l.finalIdentifyMatch none).matched action =
        some print)

def Left (runtime : Runtime Probe Print Data) (action : Action Print) (shots : Nat → Shot Probe) :
    Exit (MatchLocals Probe Print Data) → Prop
  | .loop l => Decided runtime action shots l
  | .out l => ∃ error, Idle l (some error)

section Attempt

variable {runtime : Runtime Probe Print Data} {action : Action Print} {shots : Nat → Shot Probe}
  {l : MatchLocals Probe Print Data}

lemma verifyAttempt_left {attempt : Nat} {template : Print} {probe : Probe} (idle : Idle l none)
    (shot : shots l.attempts = .frame (.prepared probe)) (kept : l.probe = some probe) :
    (runtime.verifyAttempt attempt template probe l).Meets (fun next => Idle next none)
      (Left runtime (.verify template) shots) := by
  obtain ⟨error, reported, sent, unmatched, quiet⟩ := idle
  unfold Runtime.verifyAttempt
  cases matched : runtime.matchPrint probe template with
  | error error => exact ⟨error, rfl, reported, sent, unmatched, quiet⟩
  | ok matchResult =>
    dsimp only
    by_cases positive : 0 < matchResult.score
    · simp only [gt_iff_lt, if_pos positive, true_or, if_true, decide_true]
      exact .matched error rfl sent rfl quiet probe shot kept template
        ⟨matched, positive, rfl⟩ rfl rfl rfl
    · simp only [gt_iff_lt, if_neg positive, reduceCtorEq, false_or, decide_false]
      split
      · exact .refused error rfl rfl rfl l.events quiet rfl
      · exact ⟨error, reported, sent, unmatched, quiet⟩

lemma identifyAttempt_left {attempt : Nat} {gallery : List Print} {probe : Probe}
    (idle : Idle l none) (shot : shots l.attempts = .frame (.prepared probe))
    (kept : l.probe = some probe) :
    (runtime.identifyAttempt attempt gallery probe l).Meets (fun next => Idle next none)
      (Left runtime (.identify gallery) shots) := by
  obtain ⟨error, reported, sent, unmatched, quiet⟩ := idle
  have scanned := EarlyExit.run_meets_seen
    (fun seen scan candidate (h : ScanOf runtime probe seen scan) =>
      considerPrint_scanOf h candidate) gallery
    (ScanOf.nothing l.finalMatchResult l.finalMatchResultValid
      fun _ listed => absurd listed List.not_mem_nil)
  rw [List.nil_append] at scanned
  unfold Runtime.identifyAttempt
  generalize EarlyExit.run (runtime.considerPrint probe) gallery
    ⟨none, -2 ^ 31, l.finalMatchResult, l.finalMatchResultValid⟩ = outcome at scanned ⊢
  cases outcome with
  | stop failure =>
    obtain ⟨scan, failure⟩ := failure
    exact ⟨failure, rfl, reported, sent, unmatched, quiet⟩
  | next scan =>
    cases (show ScanOf runtime probe gallery scan from scanned) with
    | nothing result valid lost =>
      simp only [Option.isSome_none, Bool.false_eq_true, false_or, if_false]
      split
      · exact .refused error rfl rfl rfl l.events quiet rfl
      · exact ⟨error, reported, sent, unmatched, quiet⟩
    | best print result earned =>
      simp only [Option.isSome_some, true_or, if_true]
      exact .matched error rfl sent rfl quiet probe shot kept print earned rfl rfl rfl

lemma captureAttempt_left (idle : Idle l none) (attempt : Nat) :
    (runtime.captureAttempt action shots l attempt).Meets (fun next => Idle next none)
      (Left runtime action shots) := by
  obtain ⟨error, reported, sent, unmatched, quiet⟩ := idle
  unfold Runtime.captureAttempt
  dsimp only
  cases shot : shots attempt with
  | missing failure =>
    cases failure with
    | none => exact .open_ ⟨error, reported, sent, unmatched, quiet⟩
    | some failure => exact ⟨failure, rfl, reported, sent, unmatched, quiet⟩
  | frame capture =>
    cases capture with
    | failed failure => exact ⟨failure, rfl, reported, sent, unmatched, quiet⟩
    | rejected reason =>
      dsimp only
      split
      · exact ⟨error, reported, sent, unmatched, quiet⟩
      · exact .open_ ⟨error, reported, sent, unmatched, quiet⟩
    | prepared probe =>
      dsimp only
      cases action with
      | verify template =>
        exact verifyAttempt_left ⟨error, reported, sent, unmatched, quiet⟩ shot rfl
      | identify gallery =>
        exact identifyAttempt_left ⟨error, reported, sent, unmatched, quiet⟩ shot rfl

end Attempt

/-! ### Completion -/

lemma reports_append (first second : List (Event Print Data)) :
    reports (first ++ second) = reports first ++ reports second := List.filterMap_append

lemma updates_append (first second : List (Event Print Data)) :
    updates (first ++ second) = updates first ++ updates second := List.filterMap_append

lemma completions_append (first second : List (Event Print Data)) :
    completions (first ++ second) = completions first ++ completions second :=
  List.filterMap_append

section Completion

variable {runtime : Runtime Probe Print Data} {session : Session} {action : Action Print}
  {shots : Nat → Shot Probe} {l : MatchLocals Probe Print Data}

/-- No report without a print names a match. -/
lemma matched_report {result : MatchResult} (other : result ≠ .success) (retry : Option Retry) :
    (action.report result none retry).matched action = none := by
  cases action with
  | verify template =>
    cases retry with
    | none =>
      cases result with
      | success => exact absurd rfl other
      | fail => rfl
      | error => rfl
    | some retry => rfl
  | identify gallery => rfl

/-- The action ends in its one completion, after what its error allows. -/
def Concluded (runtime : Runtime Probe Print Data) (action : Action Print)
    (shots : Nat → Shot Probe) (outcome : MatchOutcome Print Data) : Prop :=
  ∃ before error held, outcome.events = before ++ [.complete error held] ∧
    completions before = [] ∧ Verdict runtime action shots outcome.attempts before error

lemma completions_lastWords (updated : Option (Print × Data)) (error : Option DriverError) :
    completions (l.lastWords action updated error) = [] := by
  rw [MatchLocals.lastWords, completions_append]
  cases updated <;> split <;> rfl

lemma cleanup_eq : ∃ quiet : List (Event Print Data), Quiet quiet ∧
    (l.cleanup session).1 = { l with events := l.events ++ quiet } := by
  unfold MatchLocals.cleanup
  split
  · exact ⟨[.fingerStatus .none], fun event listed => ⟨.none, List.mem_singleton.mp listed⟩, rfl⟩
  · exact ⟨[], fun _ listed => absurd listed List.not_mem_nil, by rw [List.append_nil]⟩

/-- Between the reports on the way and the last words only the lift of the finger is told. -/
lemma concluded_of_verdict {updated : Option (Print × Data)} (told : MatchLocals Probe Print Data)
    (told_eq : l.reportTransient action = told) (earlier : completions told.events = [])
    (verdict : ∀ quiet, Quiet quiet → Verdict runtime action shots told.attempts
      (told.events ++ quiet ++ told.lastWords action updated l.surfaced) l.surfaced) :
    Concluded runtime action shots (l.complete session action updated) := by
  obtain ⟨quiet, silent, cleaned⟩ := @cleanup_eq _ _ _ session told
  refine ⟨told.events ++ quiet ++ told.lastWords action updated l.surfaced, l.surfaced,
    told.holdsNoMatch action l.surfaced, ?_, ?_, ?_⟩
  · rw [MatchLocals.complete, told_eq]
    dsimp only
    rw [cleaned, List.append_assoc _ _ [_]]
    rfl
  · rw [completions_append, completions_append, earlier, silent.silent.2.2, completions_lastWords]
    rfl
  · rw [MatchLocals.complete, told_eq]
    dsimp only
    rw [cleaned]
    exact verdict quiet silent

lemma lastWords_sent (sent : l.reportSent = true) (error : Option DriverError) :
    l.lastWords action (none : Option (Print × Data)) error = [] := by
  rw [MatchLocals.lastWords, sent]
  simp

/-- A report without a match was sent on the way, and nothing follows it. -/
lemma concluded_refused (told : MatchLocals Probe Print Data)
    (told_eq : l.reportTransient action = told) (sent : told.reportSent = true)
    (surfaced : l.surfaced = none) {quiet : List (Event Print Data)} (silent : Quiet quiet)
    {report : Report Print} (unmatched : report.matched action = none)
    (events : told.events = quiet ++ [.report report]) :
    Concluded runtime action shots (l.complete session action none) := by
  obtain ⟨noReport, noUpdate, noCompletion⟩ := silent.silent
  refine concluded_of_verdict told told_eq ?_ fun tail silent' => ?_
  · rw [events, completions_append, noCompletion]
    rfl
  · obtain ⟨noReport', noUpdate', -⟩ := silent'.silent
    rw [surfaced, lastWords_sent sent, List.append_nil, events]
    refine ⟨report, ?_, ?_⟩
    · rw [reports_append, reports_append, noReport, noReport']
      rfl
    · rw [unmatched]
      dsimp only
      rw [updates_append, updates_append, noUpdate, noUpdate']
      rfl

/-- An error ends the action without a match, and without a report unless it is transient. -/
lemma Idle.concluded {error : DriverError} (idle : Idle l (some error)) :
    Concluded runtime action shots (l.complete session action none) := by
  obtain ⟨error_eq, reported, sent, unmatched, quiet⟩ := idle
  obtain ⟨noReport, noUpdate, noCompletion⟩ := quiet.silent
  cases transient : errorIsTransientVerifyFailure error with
  | true =>
    refine concluded_refused (({ l with reported := true }).sendReport action .fail none) ?_ rfl ?_
      quiet (matched_report (by decide) none) rfl
    · rw [MatchLocals.reportTransient, error_eq, reported, Option.any_some, transient]
      rfl
    · rw [MatchLocals.surfaced, error_eq, Option.any_some, if_pos transient]
  | false =>
    have surfaced : l.surfaced = some error := by
      rw [MatchLocals.surfaced, error_eq, Option.any_some, if_neg (by rw [transient]; decide)]
    refine concluded_of_verdict l ?_ noCompletion fun tail silent => ?_
    · rw [MatchLocals.reportTransient, error_eq, Option.any_some, transient]
      rfl
    · obtain ⟨noReport', noUpdate', -⟩ := silent.silent
      have nothing : l.lastWords action (none : Option (Print × Data)) (some error) = [] := rfl
      rw [surfaced, nothing, List.append_nil]
      refine ⟨?_, ?_⟩
      · rw [reports_append, noReport, noReport']
        rfl
      · rw [updates_append, noUpdate, noUpdate']
        rfl

/-- What is studied is the match that is reported. -/
lemma study_matched (matched : l.reportedMatch = true) (valid : l.finalMatchResultValid = true)
    {probe : Probe} (kept : l.probe = some probe) {print : Print}
    (about : action.matchedPrint l.finalIdentifyMatch = some print) :
    runtime.study action l = none ∨ ∃ data, runtime.study action l = some (print, data) ∧
      runtime.studyPrint probe print l.finalMatchResult = .ok (some data) := by
  simp only [Runtime.study, matched, valid, kept, about, Bool.and_self, if_true]
  cases runtime.studyPrint probe print l.finalMatchResult with
  | error error => exact .inl rfl
  | ok outcome =>
    cases outcome with
    | none => exact .inl rfl
    | some data => exact .inr ⟨data, rfl, rfl⟩

lemma study_unmatched (unmatched : l.reportedMatch = false) : runtime.study action l = none := by
  simp only [Runtime.study, unmatched, Bool.false_and, Bool.false_eq_true, if_false]

/-- However the loop is left at its end, its action is concluded. -/
lemma Decided.concluded (decided : Decided runtime action shots l) :
    Concluded runtime action shots
      ((l.reportUndecided action).complete session action (runtime.study action l)) := by
  cases decided with
  | open_ idle =>
    obtain ⟨error_eq, reported, sent, unmatched, quiet⟩ := idle
    obtain ⟨result, retry, other, told⟩ : ∃ result retry, result ≠ MatchResult.success ∧
        l.reportUndecided action =
          ({ l with reported := true }).sendReport action result retry := by
      simp only [MatchLocals.reportUndecided, reported, error_eq, Bool.not_false,
        Option.isNone_none, Bool.and_self, if_true]
      split
      · exact ⟨.error, _, by decide, rfl⟩
      · exact ⟨.fail, none, by decide, rfl⟩
    rw [study_unmatched unmatched, told]
    refine concluded_refused (({ l with reported := true }).sendReport action result retry) ?_ rfl
      ?_ quiet (matched_report other retry) rfl
    · rw [MatchLocals.reportTransient]
      simp only [MatchLocals.sendReport, MatchLocals.post, error_eq]
      rfl
    · simp only [MatchLocals.surfaced, MatchLocals.sendReport, MatchLocals.post, error_eq]
      rfl
  | refused error_eq reported sent unmatched quiet silent events =>
    have same : l.reportUndecided action = l := by
      rw [MatchLocals.reportUndecided, reported]
      rfl
    rw [study_unmatched unmatched, same]
    refine concluded_refused l ?_ sent ?_ silent (matched_report (by decide) none) events
    · rw [MatchLocals.reportTransient, error_eq]
      rfl
    · rw [MatchLocals.surfaced, error_eq]
      rfl
  | matched error_eq reported unsent matched quiet probe shot kept print earned valid about
      verdict =>
    have same : l.reportUndecided action = l := by
      rw [MatchLocals.reportUndecided, reported]
      rfl
    have surfaced : l.surfaced = none := by
      rw [MatchLocals.surfaced, error_eq]
      rfl
    obtain ⟨noReport, noUpdate, noCompletion⟩ := quiet.silent
    rw [same]
    refine concluded_of_verdict l ?_ noCompletion fun tail silent => ?_
    · rw [MatchLocals.reportTransient, error_eq]
      rfl
    obtain ⟨noReport', noUpdate', -⟩ := silent.silent
    have words : l.lastWords action (runtime.study action l) none =
        (runtime.study action l).toList.map (fun entry => .update entry.1 entry.2) ++
          [.report (action.report l.finalVerifyResult l.finalIdentifyMatch none)] := by
      rw [MatchLocals.lastWords, reported, unsent]
      rfl
    rw [surfaced, words]
    refine ⟨action.report l.finalVerifyResult l.finalIdentifyMatch none, ?_, ?_⟩
    · rw [reports_append, reports_append, reports_append, noReport, noReport']
      cases runtime.study action l <;> rfl
    · rw [verdict]
      refine ⟨probe, l.finalMatchResult, shot, earned, ?_⟩
      rw [updates_append, updates_append, updates_append, noUpdate, noUpdate']
      rcases study_matched matched valid kept about with nothing | ⟨data, studied, by_⟩
      · left
        rw [nothing]
        rfl
      · right
        refine ⟨data, ?_, by_⟩
        rw [studied]
        rfl

end Completion

/-- Every action ends in exactly one completion. With an error it has reported and changed
nothing. Without one it has sent one report, and a report of a match is about the best print for
the probe of the last capture; only that print is updated, by the study of that probe with the
result it had on that print. -/
theorem one_verdict_per_action (runtime : Runtime Probe Print Data) (session : Session)
    (action : Action Print) (shots : Nat → Shot Probe) :
    Concluded runtime action shots (runtime.verifyOrIdentify session action shots) := by
  have start : Idle (MatchLocals.init.post (.fingerStatus .needed) : MatchLocals Probe Print Data)
      none :=
    ⟨rfl, rfl, rfl, rfl, fun event listed => ⟨.needed, List.mem_singleton.mp listed⟩⟩
  have failed : ∀ error, Idle (MatchLocals.failed error : MatchLocals Probe Print Data)
      (some error) :=
    fun error => ⟨rfl, rfl, rfl, rfl, fun _ listed => absurd listed List.not_mem_nil⟩
  have left := EarlyExit.run_meets (fun (l : MatchLocals Probe Print Data) attempt idle =>
    @captureAttempt_left _ _ _ runtime action shots l idle attempt)
    (List.range' 1 verifyCaptureAttempts) start
  unfold Runtime.verifyOrIdentify
  cases session.activated with
  | error error => exact (failed error).concluded
  | ok _ =>
    dsimp only
    split
    · exact (failed _).concluded
    · generalize EarlyExit.run (runtime.captureAttempt action shots)
        (List.range' 1 verifyCaptureAttempts) _ = outcome at left ⊢
      cases outcome with
      | next l => exact (Decided.open_ left).concluded
      | stop exit =>
        cases exit with
        | loop l => exact Decided.concluded left
        | out l =>
          obtain ⟨error, idle⟩ := left
          exact idle.concluded

end GoodixSpi.Driver
