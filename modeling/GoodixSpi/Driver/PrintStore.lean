import GoodixSpi.Chicago.StoredPrint
import GoodixSpi.Driver.Verdict

/-! The stored prints of the device under verify and identify actions. An action reads the
prints it is given from the store, and the update that it sends goes back into the store. -/

namespace GoodixSpi.Driver

open Chicago

/-- The `fpi-data` of every print, by the identity of the print. -/
abbrev PrintStore := Nat → Variant

/-- One verify or identify action, with the calibration of its time. -/
structure Visit where
  calibration : List UInt8
  session : Session
  action : Action Nat
  shots : Nat → Shot SubtemplateView

/-- A failure of the library is passed on. A fault, which has no error, is given one of no domain;
a theorem below says that there is none. -/
def DriverError.ofRuntime : RuntimeStop → DriverError
  | .error error => .ofLibrary error
  | .fault => ⟨.other "fault" 0, ""⟩

section Store

variable (sha256 : List UInt8 → Vector UInt8 calibrationDigestLength) (sensorId : SensorId)

/-- `gdix51c0_runtime_match_print`, and the study after it, on the prints of a store. -/
def storeRuntime (calibration : List UInt8) (store : PrintStore) :
    Runtime SubtemplateView Nat PrintData where
  matchPrint probe print := (runtimeMatchPrintData probe (store print) sensorId).mapError .ofRuntime
  studyPrint probe print result := (runtimeStudyPrintData sha256 probe (store print) sensorId
    calibration result).mapError .ofRuntime

def PrintStore.update (store : PrintStore) (entry : Nat × PrintData) : PrintStore :=
  Function.update store entry.1 (.native entry.2)

/-- An action, and the store after it. -/
def PrintStore.serve (store : PrintStore) (visit : Visit) :
    MatchOutcome Nat PrintData × PrintStore :=
  let outcome := (storeRuntime sha256 sensorId visit.calibration store).verifyOrIdentify
    visit.session visit.action visit.shots
  (outcome, (updates outcome.events).foldl PrintStore.update store)

/-- The outcomes of some actions, and the store after them. -/
def PrintStore.run : PrintStore → List Visit → List (MatchOutcome Nat PrintData) × PrintStore
  | store, [] => ([], store)
  | store, visit :: rest =>
    let (outcome, next) := store.serve sha256 sensorId visit
    let (outcomes, last) := PrintStore.run next rest
    (outcome :: outcomes, last)

end Store

/-- The prints that an action is given. -/
def Action.prints {Print : Type} : Action Print → List Print
  | .verify template => [template]
  | .identify gallery => gallery

/-! ### Where the error of an action comes from -/

section Blame

variable {Probe Print Data : Type} {runtime : Runtime Probe Print Data} {session : Session}
  {action : Action Print} {shots : Nat → Shot Probe}

/-- An error of the session, of a capture, or of a print that a probe was matched against. -/
inductive Blamed (runtime : Runtime Probe Print Data) (session : Session) (action : Action Print)
    (shots : Nat → Shot Probe) : DriverError → Prop
  | activation (error : DriverError) (failed : session.activated = .error error) :
      Blamed runtime session action shots error
  | uninitialized (missing : session.initialized = false) : Blamed runtime session action shots
      ⟨.notInitialized, "gdix51c0: Chicago matching requires calibration and ImageBase"⟩
  | capture (attempt : Nat) (error : DriverError) (failed : shots attempt = .missing (some error) ∨
      shots attempt = .frame (.failed error)) : Blamed runtime session action shots error
  | print (attempt : Nat) (probe : Probe) (shot : shots attempt = .frame (.prepared probe))
      (print : Print) (listed : print ∈ action.prints) (error : DriverError)
      (failed : runtime.matchPrint probe print = .error error) :
      Blamed runtime session action shots error

/-- The locals with which the loop is left. -/
def LeftWith (runtime : Runtime Probe Print Data) (session : Session) (action : Action Print)
    (shots : Nat → Shot Probe) : Exit (MatchLocals Probe Print Data) → Prop
  | .loop _ => True
  | .out l => ∃ error, l.error = some error ∧ Blamed runtime session action shots error

lemma considerPrint_blames {attempt : Nat} {probe : Probe} {gallery : List Print}
    (shot : shots attempt = .frame (.prepared probe)) (scan : Runtime.GalleryScan Print) :
    (EarlyExit.run (runtime.considerPrint probe) gallery scan).Meets (fun _ => True)
      fun failure => Blamed runtime session (.identify gallery) shots failure.2 := by
  cases run : EarlyExit.run (runtime.considerPrint probe) gallery scan with
  | next after => trivial
  | stop failure =>
    obtain ⟨before, candidate, rest, reached, split, -, stopped⟩ := EarlyExit.run_eq_stop run
    unfold Runtime.considerPrint at stopped
    split at stopped
    · next error failed =>
      cases stopped
      refine .print attempt probe shot candidate ?_ error failed
      show candidate ∈ gallery
      rw [split]
      exact List.mem_append_right _ List.mem_cons_self
    · split at stopped <;> cases stopped

lemma matchAttempt_blames {attempt : Nat} {probe : Probe} (l : MatchLocals Probe Print Data)
    (shot : shots attempt = .frame (.prepared probe)) :
    (runtime.matchAttempt action attempt probe l).Meets (fun _ => True)
      (LeftWith runtime session action shots) := by
  cases action with
  | verify template =>
    show (runtime.verifyAttempt attempt template probe l).Meets _ _
    unfold Runtime.verifyAttempt
    cases failed : runtime.matchPrint probe template with
    | error error =>
      exact ⟨error, rfl, .print attempt probe shot template List.mem_cons_self error failed⟩
    | ok matchResult =>
      dsimp only
      by_cases positive : 0 < matchResult.score
      · simp only [gt_iff_lt, if_pos positive, true_or, if_true, decide_true]
        trivial
      · simp only [gt_iff_lt, if_neg positive, reduceCtorEq, false_or, decide_false]
        split <;> trivial
  | identify gallery =>
    have scanned := @considerPrint_blames _ _ _ runtime session shots attempt probe gallery shot
      ⟨none, -2 ^ 31, l.finalMatchResult, l.finalMatchResultValid⟩
    show (runtime.identifyAttempt attempt gallery probe l).Meets _ _
    unfold Runtime.identifyAttempt
    generalize EarlyExit.run (runtime.considerPrint probe) gallery
      ⟨none, -2 ^ 31, l.finalMatchResult, l.finalMatchResultValid⟩ = outcome at scanned ⊢
    cases outcome with
    | stop failure => exact ⟨failure.2, rfl, scanned⟩
    | next scan =>
      dsimp only
      split
      · split <;> trivial
      · trivial

lemma captureAttempt_blames (l : MatchLocals Probe Print Data) (attempt : Nat) :
    (runtime.captureAttempt action shots l attempt).Meets (fun _ => True)
      (LeftWith runtime session action shots) := by
  unfold Runtime.captureAttempt
  dsimp only
  cases shot : shots attempt with
  | missing failure =>
    cases failure with
    | none => trivial
    | some failure => exact ⟨failure, rfl, .capture attempt failure (.inl shot)⟩
  | frame capture =>
    cases capture with
    | failed failure => exact ⟨failure, rfl, .capture attempt failure (.inr shot)⟩
    | rejected reason =>
      dsimp only
      split <;> trivial
    | prepared probe => exact matchAttempt_blames _ shot

/-- How an action ends: with an error that something is to blame for, or with what the loop over
its attempts has decided. -/
lemma verifyOrIdentify_cases (runtime : Runtime Probe Print Data) (session : Session)
    (action : Action Print) (shots : Nat → Shot Probe) :
    (∃ (l : MatchLocals Probe Print Data) (error : DriverError), Idle l (some error) ∧
      Blamed runtime session action shots error ∧
      runtime.verifyOrIdentify session action shots = l.complete session action none) ∨
      ∃ l : MatchLocals Probe Print Data, Decided runtime action shots l ∧
        runtime.verifyOrIdentify session action shots =
          (l.reportUndecided action).complete session action (runtime.study action l) := by
  have failed : ∀ error, Idle (MatchLocals.failed error : MatchLocals Probe Print Data)
      (some error) :=
    fun error => ⟨rfl, rfl, rfl, rfl, fun _ listed => absurd listed List.not_mem_nil⟩
  have start : Idle (MatchLocals.init.post (.fingerStatus .needed) : MatchLocals Probe Print Data)
      none :=
    ⟨rfl, rfl, rfl, rfl, fun event listed => ⟨.needed, List.mem_singleton.mp listed⟩⟩
  have left := EarlyExit.run_meets (fun (l : MatchLocals Probe Print Data) attempt idle =>
    @captureAttempt_left _ _ _ runtime action shots l idle attempt)
    (List.range' 1 verifyCaptureAttempts) start
  have blamed := @EarlyExit.run_meets _ _ _ (runtime.captureAttempt action shots) (fun _ => True)
    (LeftWith runtime session action shots)
    (fun l attempt _ => @captureAttempt_blames _ _ _ runtime session action shots l attempt)
    (List.range' 1 verifyCaptureAttempts) (MatchLocals.init.post (.fingerStatus .needed)) trivial
  unfold Runtime.verifyOrIdentify
  cases activated : session.activated with
  | error error => exact .inl ⟨_, error, failed error, .activation error activated, rfl⟩
  | ok _ =>
    dsimp only
    cases initialized : session.initialized with
    | false => exact .inl ⟨_, _, failed _, .uninitialized initialized, rfl⟩
    | true =>
      simp only [Bool.not_true, Bool.false_eq_true, if_false]
      generalize EarlyExit.run (runtime.captureAttempt action shots)
        (List.range' 1 verifyCaptureAttempts) _ = outcome at left blamed ⊢
      cases outcome with
      | next l => exact .inr ⟨l, .open_ left, rfl⟩
      | stop exit =>
        cases exit with
        | loop l => exact .inr ⟨l, left, rfl⟩
        | out l =>
          obtain ⟨error, idle⟩ := left
          obtain ⟨error', same, blame⟩ := blamed
          obtain rfl : error' = error := by
            rw [idle.error] at same
            exact (Option.some.inj same).symm
          exact .inl ⟨l, error', idle, blame, rfl⟩

/-- What an action stores comes from the study of a probe that matched the print. -/
inductive Stores (runtime : Runtime Probe Print Data) (action : Action Print)
    (shots : Nat → Shot Probe) : List (Print × Data) → Prop
  | nothing : Stores runtime action shots []
  | studied (attempt : Nat) (probe : Probe) (shot : shots attempt = .frame (.prepared probe))
      (print : Print) (listed : print ∈ action.prints) (result : MatchTemplateResult)
      (matched : runtime.matchPrint probe print = .ok result) (data : Data)
      (study : runtime.studyPrint probe print result = .ok (some data)) :
      Stores runtime action shots [(print, data)]

lemma mem_prints_of_firstBest {matches_ : Print → Except DriverError MatchTemplateResult}
    {best : Int} {print : Print} (first : action.FirstBest matches_ best print) :
    print ∈ action.prints := by
  cases action with
  | verify template => exact List.mem_singleton.mpr first
  | identify gallery =>
    obtain ⟨earlier, later, split, -⟩ := first
    show print ∈ gallery
    rw [split]
    exact List.mem_append_right _ List.mem_cons_self

lemma stores_of_verdict {attempts : Nat} {before : List (Event Print Data)}
    {error : Option DriverError} (verdict : Verdict runtime action shots attempts before error) :
    Stores runtime action shots (updates before) := by
  cases error with
  | some error =>
    rw [verdict.2]
    exact .nothing
  | none =>
    obtain ⟨report, -, verdict⟩ := verdict
    split at verdict
    · rw [verdict]
      exact .nothing
    · next print _ =>
      obtain ⟨probe, result, shot, earned, none_ | ⟨data, one, study⟩⟩ := verdict
      · rw [none_]
        exact .nothing
      · rw [one]
        exact .studied attempts probe shot print (mem_prints_of_firstBest earned.best) result
          earned.matched data study

/-- One completion, with an error that something is to blame for, and at most one update, from a
study. -/
lemma verifyOrIdentify_spec (runtime : Runtime Probe Print Data) (session : Session)
    (action : Action Print) (shots : Nat → Shot Probe) :
    Stores runtime action shots (updates (runtime.verifyOrIdentify session action shots).events) ∧
      ∃ error, completions (runtime.verifyOrIdentify session action shots).events = [error] ∧
        ∀ blamed, error = some blamed → Blamed runtime session action shots blamed := by
  have spec : ∀ (l : MatchLocals Probe Print Data) updated,
      Concluded runtime action shots (l.complete session action updated) →
      (∀ error, l.surfaced = some error → Blamed runtime session action shots error) →
      Stores runtime action shots (updates (l.complete session action updated).events) ∧
        ∃ error, completions (l.complete session action updated).events = [error] ∧
          ∀ blamed, error = some blamed → Blamed runtime session action shots blamed := by
    intro l updated concluded surfaced
    obtain ⟨before, error, held, events, silent, verdict⟩ := concluded
    have last : error = l.surfaced := by
      have here := congrArg List.getLast? events
      unfold MatchLocals.complete MatchLocals.matchCompleteMain at here
      dsimp only at here
      rw [← List.append_assoc, List.getLast?_concat, List.getLast?_concat,
        Option.some.injEq] at here
      exact (Event.complete.inj here).1.symm
    rw [events, updates_append, completions_append, silent]
    refine ⟨?_, error, rfl, fun blamed same => surfaced blamed (last ▸ same)⟩
    rw [show updates [(Event.complete error held : Event Print Data)] = [] from rfl,
      List.append_nil]
    exact stores_of_verdict verdict
  rcases verifyOrIdentify_cases runtime session action shots with
    ⟨l, error, idle, blamed, ends⟩ | ⟨l, decided, ends⟩
  · rw [ends]
    refine spec l none idle.concluded fun error' surfaced => ?_
    rw [MatchLocals.surfaced, idle.error] at surfaced
    split at surfaced
    · cases surfaced
    · cases surfaced
      exact blamed
  · rw [ends]
    refine spec _ _ decided.concluded fun error' surfaced => ?_
    have clean : (l.reportUndecided action).error = none := by
      have before : l.error = none := by
        cases decided with
        | open_ idle => exact idle.error
        | refused error => exact error
        | matched error => exact error
      unfold MatchLocals.reportUndecided
      split
      · dsimp only
        split <;> exact before
      · exact before
    rw [MatchLocals.surfaced, clean] at surfaced
    cases surfaced

end Blame

/-! ### Any run of actions -/

section Runs

variable {sha256 : List UInt8 → Vector UInt8 calibrationDigestLength} {sensorId : SensorId}

/-- The print is one of the sensor, with a gallery of some size. -/
def PrintStore.Holds (sensorId : SensorId) (store : PrintStore) (print count capacity : Nat) :
    Prop :=
  ∃ data gallery, store print = .native data ∧ StoredPrint sensorId data gallery ∧
    gallery.count = count ∧ gallery.capacity = capacity

/-- The errors that an action may end in: none of them is about a print. -/
inductive Visit.OwnError (visit : Visit) : DriverError → Prop
  | activation (error : DriverError) (failed : visit.session.activated = .error error) :
      OwnError visit error
  | uninitialized (missing : visit.session.initialized = false) : OwnError visit
      ⟨.notInitialized, "gdix51c0: Chicago matching requires calibration and ImageBase"⟩
  | capture (attempt : Nat) (error : DriverError)
      (failed : visit.shots attempt = .missing (some error) ∨
        visit.shots attempt = .frame (.failed error)) : OwnError visit error

/-- An action on prints of the sensor, with captures that can be studied. -/
structure Visit.Proper (sensorId : SensorId) (store : PrintStore) (visit : Visit) : Prop where
  prints : ∀ print ∈ visit.action.prints,
    ∃ count capacity, store.Holds sensorId print count capacity
  shots : ∀ attempt probe, visit.shots attempt = .frame (.prepared probe) → probe.Studyable

lemma ok_of_mapError {α ε ε' : Type} {outcome : Except ε α} {f : ε → ε'} {value : α}
    (h : outcome.mapError f = .ok value) : outcome = .ok value := by
  cases outcome with
  | error failure => cases h
  | ok found =>
    cases h
    rfl

/-- A match on a print of the store succeeds. -/
lemma PrintStore.Holds.matchPrint {store : PrintStore} {print count capacity : Nat}
    (holds : store.Holds sensorId print count capacity) {probe : SubtemplateView}
    (studyable : probe.Studyable)
    (sha256 : List UInt8 → Vector UInt8 calibrationDigestLength) (calibration : List UInt8) :
    ∃ result, (storeRuntime sha256 sensorId calibration store).matchPrint probe print =
      .ok result := by
  obtain ⟨data, gallery, here, stored, -, -⟩ := holds
  obtain ⟨result, matched, -⟩ := Enrollment.matchTemplateType24_spec stored.storable.packable
    studyable.metric runtimeSelectorThreshold
  have found := (stored.runtimeMatch_iff probe).mpr matched
  refine ⟨result, ?_⟩
  show (runtimeMatchPrintData probe (store print) sensorId).mapError _ = _
  rw [here, found]
  rfl

/-- What a study makes of a print of the store can take its place. -/
lemma PrintStore.Holds.study {store : PrintStore} {print count capacity : Nat}
    (holds : store.Holds sensorId print count capacity) {probe : SubtemplateView}
    (studyable : probe.Studyable) {calibration : List UInt8} {result : MatchTemplateResult}
    {data : PrintData}
    (matched : (storeRuntime sha256 sensorId calibration store).matchPrint probe print = .ok result)
    (study : (storeRuntime sha256 sensorId calibration store).studyPrint probe print result =
      .ok (some data)) :
    ∃ count', count ≤ count' ∧
      (store.update (print, data)).Holds sensorId print count' capacity := by
  obtain ⟨old, gallery, here, stored, rfl, rfl⟩ := holds
  have matched' := ok_of_mapError matched
  have study' := ok_of_mapError study
  rw [here] at matched' study'
  obtain ⟨result', after, gallery', -, once, stored', step⟩ :=
    @StoredPrint.matchAndStudy sha256 sensorId old gallery ⟨probe, calibration⟩ stored studyable
  have twice : Press.matchAndStudy sha256 sensorId ⟨probe, calibration⟩ old =
      .ok (result, data) := by
    simp only [Press.matchAndStudy, matched', study', Bind.bind, Except.bind]
    rfl
  rw [twice] at once
  cases once
  obtain ⟨capacity, count⟩ := step.size
  have fits := stored.storable.packable.count
  refine ⟨gallery'.count, ?_, data, gallery', ?_, stored', rfl, capacity⟩
  · rw [count]
    split <;> omega
  · exact Function.update_self print _ store

/-- One action. -/
lemma PrintStore.serve_holds
    (sha256 : List UInt8 → Vector UInt8 calibrationDigestLength) {store : PrintStore} {visit : Visit}
    (proper : visit.Proper sensorId store) :
    (∀ print, print ∉ visit.action.prints →
      (store.serve sha256 sensorId visit).2 print = store print) ∧
    (∀ print count capacity, store.Holds sensorId print count capacity →
      ∃ count', count ≤ count' ∧
        (store.serve sha256 sensorId visit).2.Holds sensorId print count' capacity) ∧
    ∃ error, completions (store.serve sha256 sensorId visit).1.events = [error] ∧
      ∀ own, error = some own → visit.OwnError own := by
  obtain ⟨stores, error, completed, blamed⟩ :=
    verifyOrIdentify_spec (storeRuntime sha256 sensorId visit.calibration store) visit.session
      visit.action visit.shots
  have errors : ∀ own, error = some own → visit.OwnError own := by
    intro own same
    cases blamed own same with
    | activation _ failed => exact .activation own failed
    | uninitialized missing => exact .uninitialized missing
    | capture attempt _ failed => exact .capture attempt own failed
    | print attempt probe shot print listed _ failed =>
      obtain ⟨count, capacity, holds⟩ := proper.prints print listed
      obtain ⟨result, matched⟩ := holds.matchPrint (proper.shots attempt probe shot) sha256
        visit.calibration
      rw [failed] at matched
      cases matched
  refine ⟨?_, ?_, error, completed, errors⟩
  · intro print unlisted
    unfold PrintStore.serve
    dsimp only
    generalize updates _ = entries at stores
    cases stores with
    | nothing => rfl
    | studied attempt probe shot other listed =>
      have apart : print ≠ other := by
        rintro rfl
        exact unlisted listed
      exact Function.update_of_ne apart _ store
  · intro print count capacity holds
    unfold PrintStore.serve
    dsimp only
    generalize updates _ = entries at stores
    cases stores with
    | nothing => exact ⟨count, le_rfl, holds⟩
    | studied attempt probe shot other listed result matched data study =>
      by_cases same : print = other
      · subst same
        exact holds.study (proper.shots attempt probe shot) matched study
      · obtain ⟨old, gallery, here, stored, sizes⟩ := holds
        refine ⟨count, le_rfl, old, gallery, ?_, stored, sizes⟩
        rw [← here]
        exact Function.update_of_ne same _ store

/-- Whatever verify and identify actions run on a store: a print that no action is given stays as it
is, a print of the sensor stays one and its gallery keeps its sub-templates, and no action ends in
an error that comes from a print. -/
theorem print_store_survives
    (sha256 : List UInt8 → Vector UInt8 calibrationDigestLength) (store : PrintStore) (visits : List Visit)
    (proper : ∀ visit ∈ visits, visit.Proper sensorId store) :
    (∀ print, (∀ visit ∈ visits, print ∉ visit.action.prints) →
      (store.run sha256 sensorId visits).2 print = store print) ∧
    (∀ print count capacity, store.Holds sensorId print count capacity →
      ∃ count', count ≤ count' ∧
        (store.run sha256 sensorId visits).2.Holds sensorId print count' capacity) ∧
    List.Forall₂ (fun outcome visit => ∃ error, completions outcome.events = [error] ∧
      ∀ own, error = some own → visit.OwnError own) (store.run sha256 sensorId visits).1 visits := by
  induction visits generalizing store with
  | nil =>
    exact ⟨fun _ _ => rfl, fun _ count _ holds => ⟨count, le_rfl, holds⟩, .nil⟩
  | cons visit rest ih =>
    obtain ⟨frame, keeps, completed⟩ :=
      PrintStore.serve_holds sha256 (proper visit List.mem_cons_self)
    have later : ∀ other ∈ rest, other.Proper sensorId (store.serve sha256 sensorId visit).2 := by
      intro other listed
      have before := proper other (List.mem_cons_of_mem visit listed)
      refine ⟨fun print given => ?_, before.shots⟩
      obtain ⟨count, capacity, holds⟩ := before.prints print given
      obtain ⟨count', -, holds'⟩ := keeps print count capacity holds
      exact ⟨count', capacity, holds'⟩
    obtain ⟨frame', keeps', completed'⟩ := ih _ later
    refine ⟨fun print unlisted => ?_, fun print count capacity holds => ?_,
      .cons completed completed'⟩
    · have behind := frame' print fun other listed =>
        unlisted other (List.mem_cons_of_mem visit listed)
      exact behind.trans (frame print (unlisted visit List.mem_cons_self))
    · obtain ⟨count', more, holds'⟩ := keeps print count capacity holds
      obtain ⟨count'', more', holds''⟩ := keeps' print count' capacity holds'
      exact ⟨count'', more.trans more', holds''⟩

/-- One print, verified by its own finger. -/
def gridVisit : Visit where
  calibration := []
  session := ⟨.ok (), true, false, false, true, false⟩
  action := .verify 0
  shots _ := .frame (.prepared gridProbe)

theorem print_store_survives_grid :
    ∃ count', 1 ≤ count' ∧
      (PrintStore.run (fun _ => emptyDigest) gridSensor (fun _ => .native gridPrint)
        [gridVisit, gridVisit]).2.Holds gridSensor 0 count' enrollmentCapacity := by
  have holds : ∀ print, PrintStore.Holds gridSensor (fun _ => .native gridPrint) print 1
      enrollmentCapacity :=
    fun _ => ⟨gridPrint, gridGallery.reload, rfl, gridPrint_stored, reload_count _, rfl⟩
  have proper : gridVisit.Proper gridSensor fun _ => .native gridPrint := by
    refine ⟨fun print _ => ⟨1, enrollmentCapacity, holds print⟩, fun attempt probe shot => ?_⟩
    cases shot
    exact gridProbe_studyable
  have survives := print_store_survives (fun _ => emptyDigest) (fun _ => .native gridPrint)
    [gridVisit, gridVisit] fun visit listed => by
      have here : visit = gridVisit := by simpa using listed
      rw [here]
      exact proper
  exact survives.2.1 0 1 enrollmentCapacity (holds 0)

end Runs

end GoodixSpi.Driver
