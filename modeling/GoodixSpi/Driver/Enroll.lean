import GoodixSpi.Chicago.Enrollment.Operation
import GoodixSpi.Chicago.Enrollment.Policy
import GoodixSpi.Driver.Error

/-! The enrollment loop of `gdix51c0_enroll_sync`. The position of a sample is known only after
it was inserted, so a sample that the policy sets aside is dropped again, kept, and inserted
after the one captured next. -/

namespace GoodixSpi.Driver

open Chicago

/-- One capture, and whether the finger is lifted after it. -/
structure Turn where
  capture : Capture Sample
  lifted : Bool

/-- The arguments of one `gdix51c0_enroll_progress_on_main`. -/
structure Progress where
  completedStages : Nat
  retry : Option Retry
deriving DecidableEq, Repr

structure EnrollLoop where
  enrollment : Enrollment
  policy : EngineEnrollmentPolicy
  deferredProbe : Option Sample
  progress : List Progress

/-- Where an enrollment ends with an error. -/
inductive EnrollFailure
  | capture (error : DriverError)
  | insertion (error : GError)
  | drop (error : GError)
  | duplicateDeferred
  | missingDeferred
  | restore (error : GError)
  | heldAfterRetry
  | heldBetweenStages
deriving DecidableEq, Repr

def EnrollFailure.error : EnrollFailure → DriverError
  | .capture error => error
  | .insertion error => .ofLibrary error
  | .drop error => .ofLibrary error
  | .duplicateDeferred => ⟨.failed, "gdix51c0: duplicate deferred Chicago enrollment sample"⟩
  | .missingDeferred => ⟨.failed, "gdix51c0: missing deferred Chicago enrollment sample"⟩
  | .restore error => .ofLibrary error
  | .heldAfterRetry =>
    ⟨.timedOut, "gdix51c0: finger was not lifted after Chicago enrollment retry"⟩
  | .heldBetweenStages =>
    ⟨.timedOut, "gdix51c0: finger was not lifted between Chicago enrollment stages"⟩

/-- What the user is told of a capture without a probe. -/
def captureRetry (reason : RuntimeReject) : Retry where
  kind := .general
  message :=
    if reason = .noFeatures then "No fingerprint features found; cover the sensor fully."
    else "Fingerprint image quality is too low; try again."

/-- What the user is told of a tipped sample. -/
def positionRetry (positionReject : UInt32) : Retry where
  kind := .centerFinger
  message :=
    if positionReject = 1 then "Finger is too high; move it lower."
    else if positionReject = 2 then "Finger is too low; move it higher."
    else if positionReject = 3 then "Finger is too far left; move it right."
    else "Finger is too far right; move it left."

namespace EnrollLoop

def start : EnrollLoop where
  enrollment := .new
  policy := .init
  deferredProbe := none
  progress := []

variable (self : EnrollLoop)

def insert (probe : Sample) : Except GError (Enrollment × EnrollmentResult) :=
  if self.enrollment.count = 0 then self.enrollment.insertFirst probe
  else self.enrollment.insertNext probe

/-- `policy.defer_current_sample`: the sample just inserted is dropped and kept. -/
def defer (probe : Sample) : Except EnrollFailure EnrollLoop :=
  if self.policy.deferCurrentSample then
    if self.deferredProbe.isSome then .error .duplicateDeferred
    else
      match self.enrollment.dropLast with
      | .error error => .error (.drop error)
      | .ok dropped => .ok { self with enrollment := dropped, deferredProbe := some probe }
  else .ok self

/-- `policy.restore_deferred_sample`: the kept sample is inserted after all. -/
def restore : Except EnrollFailure EnrollLoop :=
  if self.policy.restoreDeferredSample then
    match self.deferredProbe with
    | none => .error .missingDeferred
    | some probe =>
      match self.enrollment.insertNext probe with
      | .error error => .error (.restore error)
      | .ok (restored, _) => .ok { self with enrollment := restored, deferredProbe := none }
  else .ok self

def report (retry : Option Retry) : EnrollLoop :=
  { self with progress := self.progress ++ [⟨self.policy.used, retry⟩] }

/-- One round of the loop. -/
def round (turn : Turn) : Except EnrollFailure EnrollLoop :=
  match turn.capture with
  | .failed error => .error (.capture error)
  | .rejected reason =>
    if turn.lifted then .ok (self.report (some (captureRetry reason))) else .error .heldAfterRetry
  | .prepared probe =>
    match self.insert probe with
    | .error error => .error (.insertion error)
    | .ok (inserted, result) =>
      let admission := self.policy.accept (result.positionX, result.positionY)
      let accepted := { self with enrollment := inserted, policy := admission.policy }
      match accepted.defer probe with
      | .error failure => .error failure
      | .ok deferred =>
        match deferred.restore with
        | .error failure => .error failure
        | .ok restored =>
          if restored.policy.complete || turn.lifted then
            .ok (restored.report (if admission.accepted then none
              else some (positionRetry admission.rejectDetail)))
          else .error .heldBetweenStages

/-- The loop over the captures to come, up to completion, and the captures it leaves. -/
def run : EnrollLoop → List Turn → Except EnrollFailure (EnrollLoop × List Turn)
  | self, [] => .ok (self, [])
  | self, turn :: rest =>
    if self.policy.complete then .ok (self, turn :: rest)
    else
      match self.round turn with
      | .error failure => .error failure
      | .ok next => next.run rest

end EnrollLoop

end GoodixSpi.Driver

/-! ### The samples of an enrollment -/

namespace GoodixSpi.Chicago

/-- The sample that a sub-template was made of. -/
def Subtemplate.sample (subtemplate : Subtemplate) : Sample where
  records := subtemplate.records
  activeCount := subtemplate.activeCount
  quality := subtemplate.quality
  coverage := subtemplate.coverage
  metricData := if subtemplate.hasMetricData then some subtemplate.metricData else none

lemma Subtemplate.sample_fresh (sample : Sample) (lineageIndex : Nat) :
    (Subtemplate.fresh sample.records sample.activeCount sample.quality sample.coverage
      sample.metricData lineageIndex).sample = sample := by
  obtain ⟨records, activeCount, quality, coverage, metricData⟩ := sample
  cases metricData with
  | none => rfl
  | some metricData => rfl

namespace Enrollment

variable {self after : Enrollment}

def samples (self : Enrollment) : List Sample := self.subtemplates.map Subtemplate.sample

lemma length_samples : self.samples.length = self.count := List.length_map _

/-- The group and the study counters are no part of a sample. -/
lemma samples_of_cores : self.samples = (self.subtemplates.map Subtemplate.core).map
    Subtemplate.sample := by
  rw [List.map_map]
  rfl

lemma samples_insertFirst {sample : Sample} {result : EnrollmentResult}
    (ok : self.insertFirst sample = .ok (after, result)) :
    after.samples = self.samples ++ [sample] ∧ after.capacity = self.capacity := by
  obtain ⟨-, -, -, rfl⟩ := insertFirst_ok ok
  refine ⟨?_, rfl⟩
  rw [samples, List.map_append, List.map_singleton, Subtemplate.sample_fresh]
  rfl

lemma samples_insertNext {sample : Sample} {result : EnrollmentResult}
    (ok : self.insertNext sample = .ok (after, result)) :
    after.samples = self.samples ++ [sample] ∧ after.capacity = self.capacity := by
  obtain ⟨metricData, given, -, -, -, -, -, rfl⟩ := insertNext_ok ok
  have grows := (insertCompared_outcome self sample metricData
    (self.subtemplates.map (compare sample metricData))).grows
  have added : (self.newSubtemplate sample metricData 0).core.sample = sample := by
    have fresh := Subtemplate.sample_fresh sample self.count
    rw [given] at fresh
    exact fresh
  refine ⟨?_, grows.capacity⟩
  rw [samples_of_cores, grows.cores, List.map_append, ← samples_of_cores, List.map_singleton, added]

lemma samples_dropLast {sample : Sample} {earlier : List Sample}
    (last : self.samples = earlier ++ [sample]) :
    ∃ after, self.dropLast = .ok after ∧ after.samples = earlier ∧
      after.capacity = self.capacity := by
  obtain ⟨subtemplates, rest, split, front, back⟩ := List.map_eq_append_iff.mp last
  obtain ⟨subtemplate, rfl, -⟩ := List.map_eq_singleton_iff.mp back
  exact ⟨_, dropLast_concat split, front, rfl⟩

/-- Only an empty or a full enrollment is not supported. -/
lemma insertNext_refused {sample : Sample} {error : GError}
    (refused : self.insertNext sample = .error error) (started : 0 < self.count)
    (room : self.count < self.capacity) :
    error.code = .invalidArgument ∨ error.code = .invalidData := by
  unfold insertNext at refused
  rw [if_neg (by omega)] at refused
  split at refused
  · cases refused
    exact .inl rfl
  · split at refused
    · cases refused
      exact .inl rfl
    · split at refused
      · cases refused
        exact .inr rfl
      · cases refused

lemma insertFirst_refused {sample : Sample} {error : GError}
    (refused : self.insertFirst sample = .error error) (empty : self.count = 0) :
    error.code = .invalidArgument := by
  unfold insertFirst at refused
  rw [if_neg (not_not.mpr empty)] at refused
  split at refused
  · cases refused
    rfl
  · cases refused

end Enrollment

end GoodixSpi.Chicago

namespace GoodixSpi.Driver

open Chicago

/-! ### One round -/

/-- The probes of a list of captures. -/
def preparedProbes (turns : List Turn) : List Sample :=
  turns.filterMap fun turn =>
    match turn.capture with
    | .prepared probe => some probe
    | _ => none

/-- Failures that a loop which keeps its books cannot have. -/
def EnrollFailure.Refuses : EnrollFailure → Prop
  | .insertion error | .restore error => error.code = .notSupported ∨ error.code = .exists
  | .drop _ | .duplicateDeferred | .missingDeferred => True
  | _ => False

lemma not_refuses_insertion {error : GError}
    (plain : error.code = .invalidArgument ∨ error.code = .invalidData) :
    ¬(EnrollFailure.insertion error).Refuses ∧ ¬(EnrollFailure.restore error).Refuses := by
  have differs : ¬(error.code = .notSupported ∨ error.code = .exists) := by
    rcases plain with same | same
    · rw [same]
      decide
    · rw [same]
      decide
  exact ⟨differs, differs⟩

namespace EnrollLoop

/-- How the sub-templates stand to the captured samples: before the first tip, with the first
tipped sample set aside, and after it was restored. -/
inductive Arranged (e : EnrollLoop) (captured : List Sample) : Prop
  | inOrder (untipped : e.policy.tipped = 0) (aside : e.deferredProbe = none)
      (samples : e.enrollment.samples = captured)
  | keptAside (deferred : Sample) (tipped : 0 < e.policy.tipped)
      (aside : e.deferredProbe = some deferred)
      (split : captured = e.enrollment.samples ++ [deferred])
  | restored (before : List Sample) (deferred next : Sample) (later : List Sample)
      (tipped : 0 < e.policy.tipped) (aside : e.deferredProbe = none)
      (samples : e.enrollment.samples = before ++ next :: deferred :: later)
      (split : captured = before ++ deferred :: next :: later)

/-- What the loop has between two captures. -/
structure Keeps (e : EnrollLoop) (captured : List Sample) : Prop where
  consistent : e.policy.Consistent
  touched : e.policy.touched = captured.length
  arranged : e.Arranged captured
  pending : e.deferredProbe.isSome = e.policy.deferCurrentSample
  settled : e.policy.complete = true → e.policy.deferCurrentSample = false
  capacity : e.enrollment.capacity = enrollmentCapacity

/-- What one round does to the loop, if it goes on. -/
def Rounds (captured : List Sample) : Except EnrollFailure EnrollLoop → Prop
  | .ok next => next.Keeps captured
  | .error failure => ¬failure.Refuses

variable {self : EnrollLoop} {captured : List Sample}

lemma keeps_start : start.Keeps [] where
  consistent := EngineEnrollmentPolicy.consistent_init
  touched := rfl
  arranged := .inOrder rfl rfl rfl
  pending := rfl
  settled := fun _ => rfl
  capacity := rfl

/-- Only the books matter, not what was reported. -/
lemma Keeps.report (h : self.Keeps captured) (retry : Option Retry) :
    (self.report retry).Keeps captured where
  consistent := h.consistent
  touched := h.touched
  arranged := by
    cases h.arranged with
    | inOrder untipped aside samples => exact .inOrder untipped aside samples
    | keptAside deferred tipped aside split => exact .keptAside deferred tipped aside split
    | restored before deferred next later tipped aside samples split =>
      exact .restored before deferred next later tipped aside samples split
  pending := h.pending
  settled := h.settled
  capacity := h.capacity

/-- Each captured sample is in the enrollment or set aside. -/
lemma Keeps.count (h : self.Keeps captured) :
    captured.length = self.enrollment.count + self.deferredProbe.toList.length := by
  rw [← Enrollment.length_samples]
  cases h.arranged with
  | inOrder untipped aside samples => rw [aside, samples]; rfl
  | keptAside deferred tipped aside split => rw [aside, split, List.length_append]; rfl
  | restored before deferred next later tipped aside samples split =>
    rw [aside, samples, split]
    simp

/-- There is room for the next sample, and for the one set aside. -/
lemma Keeps.room (h : self.Keeps captured) (running : self.policy.complete = false) :
    captured.length + 1 < enrollmentCapacity := by
  have below : self.policy.used < engineRequiredSamples := by
    simpa [EngineEnrollmentPolicy.complete] using running
  have touched := h.touched
  have sum := h.consistent.touched
  have tipped := h.consistent.tipped
  simp only [engineRequiredSamples, enrollmentCapacity] at below ⊢
  omega

lemma insert_ok {probe : Sample} {inserted : Enrollment} {result : EnrollmentResult}
    (ok : self.insert probe = .ok (inserted, result)) :
    inserted.samples = self.enrollment.samples ++ [probe] ∧
      inserted.capacity = self.enrollment.capacity := by
  unfold insert at ok
  split at ok
  · exact Enrollment.samples_insertFirst ok
  · exact Enrollment.samples_insertNext ok

lemma insert_error {probe : Sample} {error : GError} (refused : self.insert probe = .error error)
    (room : self.enrollment.count < self.enrollment.capacity) :
    error.code = .invalidArgument ∨ error.code = .invalidData := by
  unfold insert at refused
  split at refused
  · next empty => exact .inl (Enrollment.insertFirst_refused refused empty)
  · next started =>
    exact Enrollment.insertNext_refused refused (Nat.pos_of_ne_zero started) room

lemma served_settled {policy : EngineEnrollmentPolicy} {call : EngineEnrollmentPolicy.Admission}
    (served : policy.Served call) (complete : call.policy.complete = true) :
    call.policy.deferCurrentSample = false := by
  rw [← served.consistent.pending]
  exact served.complete complete

/-- The first tip sets its sample aside. -/
lemma accept_first_tip {policy : EngineEnrollmentPolicy} {position : Position}
    (untipped : policy.tipped = 0) (tipped : 0 < (policy.accept position).policy.tipped) :
    (policy.accept position).policy.deferCurrentSample = true := by
  have before : policy.touch.tipped = 0 := untipped
  unfold EngineEnrollmentPolicy.accept at tipped ⊢
  dsimp only at tipped ⊢
  split at tipped
  · next tips => simp only [if_pos tips, EngineEnrollmentPolicy.tip, before, if_true]
  · exact absurd tipped (by rw [show policy.touch.advance.tipped = policy.tipped from rfl]; omega)

section Settle

variable {probe : Sample} {accepted : EnrollLoop} {position : Position}
  (h : self.Keeps captured) (running : self.policy.complete = false)
  (policy : accepted.policy = (self.policy.accept position).policy)
  (probes : accepted.deferredProbe = self.deferredProbe)
  (samples : accepted.enrollment.samples = self.enrollment.samples ++ [probe])
  (capacity : accepted.enrollment.capacity = self.enrollment.capacity)
include h running policy probes samples capacity

/-- The first tip: nothing is set aside yet, and the sample is taken back. -/
lemma Keeps.defers (deferring : accepted.policy.deferCurrentSample = true) :
    ∃ deferred, accepted.defer probe = .ok deferred ∧ deferred.restore = .ok deferred ∧
      deferred.Keeps (captured ++ [probe]) := by
  have served := h.consistent.accept running position
  rw [policy] at deferring
  have untipped := served.defers deferring
  obtain ⟨aside, inOrder⟩ : self.deferredProbe = none ∧ self.enrollment.samples = captured := by
    cases h.arranged with
    | inOrder _ aside samples => exact ⟨aside, samples⟩
    | keptAside _ tipped _ _ => omega
    | restored _ _ _ _ tipped _ _ _ => omega
  obtain ⟨dropped, ok, earlier, same⟩ := Enrollment.samples_dropLast samples
  refine ⟨{ accepted with enrollment := dropped, deferredProbe := some probe }, ?_, ?_, ?_⟩
  · rw [defer, policy, if_pos deferring, probes, aside, ok]
    rfl
  · have calm : accepted.policy.restoreDeferredSample = false := by
      rw [policy, served.restores, ← h.pending, aside]
      rfl
    rw [restore]
    simp only [calm, Bool.false_eq_true, if_false]
  · constructor
    · exact policy ▸ served.consistent
    · simp only [policy, EngineEnrollmentPolicy.accept_touched, h.touched, List.length_append,
        List.length_singleton]
    · refine .keptAside probe ?_ rfl ?_
      · rw [policy]
        exact served.consistent.deferred deferring
      · rw [earlier, inOrder]
    · simp only [policy, deferring, Option.isSome_some]
    · exact policy ▸ served_settled served
    · rw [same, capacity, h.capacity]

/-- No tip, or a later one: the sample stays, and the one set aside before it follows it. -/
lemma Keeps.restores (staying : accepted.policy.deferCurrentSample = false) :
    accepted.defer probe = .ok accepted ∧ Rounds (captured ++ [probe]) accepted.restore := by
  have served := h.consistent.accept running position
  have flag : accepted.policy.restoreDeferredSample = self.deferredProbe.isSome := by
    rw [policy, served.restores, h.pending]
  have consistent : accepted.policy.Consistent := policy ▸ served.consistent
  have touched : accepted.policy.touched = (captured ++ [probe]).length := by
    rw [policy, EngineEnrollmentPolicy.accept_touched, h.touched, List.length_append,
      List.length_singleton]
  have tips : self.policy.tipped ≤ accepted.policy.tipped := policy ▸ served.tipped
  have full : accepted.enrollment.capacity = enrollmentCapacity := capacity.trans h.capacity
  have counted : accepted.enrollment.count = self.enrollment.count + 1 := by
    rw [← Enrollment.length_samples, samples, List.length_append, Enrollment.length_samples,
      List.length_singleton]
  refine ⟨by rw [defer, staying]; rfl, ?_⟩
  -- Without a sample set aside, restoring does nothing.
  have calm : self.deferredProbe = none → accepted.Arranged (captured ++ [probe]) →
      Rounds (captured ++ [probe]) accepted.restore := by
    intro aside arranged
    rw [restore, flag, aside]
    refine ⟨consistent, touched, arranged, ?_, fun _ => staying, full⟩
    rw [probes, aside, staying]
    rfl
  cases h.arranged with
  | inOrder untipped aside inOrder =>
    refine calm aside (.inOrder ?_ (by rw [probes, aside]) (by rw [samples, inOrder]))
    by_contra tipped
    have deferring := @accept_first_tip _ position untipped
      (by rw [← policy]; exact Nat.pos_of_ne_zero tipped)
    rw [← policy, staying] at deferring
    cases deferring
  | keptAside deferred tipped aside split =>
    have room := h.room running
    have few := h.count
    rw [aside] at few
    simp only [Option.toList_some, List.length_singleton] at few
    rw [restore, flag, aside, probes, aside]
    simp only [Option.isSome_some, if_true]
    cases inserted : accepted.enrollment.insertNext deferred with
    | error error =>
      exact (not_refuses_insertion (Enrollment.insertNext_refused inserted (by omega)
        (by omega))).2
    | ok restored =>
      obtain ⟨grown, same⟩ := Enrollment.samples_insertNext inserted
      refine ⟨consistent, touched, ?_, ?_, fun _ => staying, same.trans full⟩
      · refine .restored self.enrollment.samples deferred probe [] (tipped.trans_le tips) rfl ?_ ?_
        · rw [grown, samples, List.append_assoc]
          rfl
        · rw [split, List.append_assoc]
          rfl
      · rw [staying]
        rfl
  | restored before deferred next later tipped aside same split =>
    refine calm aside (.restored before deferred next (later ++ [probe]) (tipped.trans_le tips)
      (by rw [probes, aside]) ?_ ?_)
    · rw [samples, same, List.append_assoc]
      rfl
    · rw [split, List.append_assoc]
      rfl

end Settle

/-- One round keeps the books. -/
lemma Keeps.round (h : self.Keeps captured) (running : self.policy.complete = false) (turn : Turn) :
    Rounds (captured ++ preparedProbes [turn]) (self.round turn) := by
  obtain ⟨capture, lifted⟩ := turn
  cases capture with
  | failed error => exact id
  | rejected reason =>
    have same : captured ++ preparedProbes [⟨.rejected reason, lifted⟩] = captured :=
      List.append_nil _
    simp only [same, EnrollLoop.round]
    split
    · exact h.report _
    · exact id
  | prepared probe =>
    have added : preparedProbes [⟨.prepared probe, lifted⟩] = [probe] := rfl
    simp only [added, EnrollLoop.round]
    cases inserted : self.insert probe with
    | error error =>
      have room := h.room running
      have few := h.count
      have full := h.capacity
      exact (not_refuses_insertion (insert_error inserted (by omega))).1
    | ok outcome =>
      obtain ⟨enrollment, result⟩ := outcome
      obtain ⟨grown, same⟩ := insert_ok inserted
      dsimp only
      obtain ⟨accepted, accepted_eq⟩ : ∃ accepted : EnrollLoop, accepted = { self with
          enrollment
          policy := (self.policy.accept (result.positionX, result.positionY)).policy } := ⟨_, rfl⟩
      have policy : accepted.policy =
          (self.policy.accept (result.positionX, result.positionY)).policy := by rw [accepted_eq]
      have probes : accepted.deferredProbe = self.deferredProbe := by rw [accepted_eq]
      rw [← show accepted.enrollment = enrollment by rw [accepted_eq]] at grown same
      rw [← accepted_eq]
      cases deferring : accepted.policy.deferCurrentSample with
      | true =>
        obtain ⟨deferred, ok, calm, keeps⟩ := h.defers running policy probes grown same deferring
        simp only [ok, calm]
        split
        · exact keeps.report _
        · exact id
      | false =>
        obtain ⟨ok, rounds⟩ := h.restores running policy probes grown same deferring
        simp only [ok]
        cases restored : accepted.restore with
        | error failure =>
          rw [restored] at rounds
          exact rounds
        | ok next =>
          rw [restored] at rounds
          dsimp only
          split
          · exact Keeps.report rounds _
          · exact id

/-! ### The loop -/

lemma preparedProbes_cons (turn : Turn) (turns : List Turn) :
    preparedProbes (turn :: turns) = preparedProbes [turn] ++ preparedProbes turns := by
  rw [← List.singleton_append, preparedProbes, preparedProbes, List.filterMap_append]
  rfl

/-- The loop keeps the books of the captures it takes. -/
lemma Keeps.run (h : self.Keeps captured) (turns : List Turn) :
    match self.run turns with
    | .ok (finished, rest) => ∃ taken, turns = taken ++ rest ∧
        finished.Keeps (captured ++ preparedProbes taken) ∧
        (finished.policy.complete = true ∨ rest = [])
    | .error failure => ¬failure.Refuses := by
  induction turns generalizing self captured with
  | nil => exact ⟨[], rfl, by rwa [show preparedProbes [] = [] from rfl, List.append_nil], .inr rfl⟩
  | cons turn rest ih =>
    cases complete : self.policy.complete with
    | true =>
      rw [EnrollLoop.run, if_pos complete]
      refine ⟨[], rfl, ?_, .inl complete⟩
      rwa [show preparedProbes [] = [] from rfl, List.append_nil]
    | false =>
      have round := h.round complete turn
      rw [EnrollLoop.run, if_neg (by rw [complete]; exact Bool.false_ne_true)]
      cases taken : self.round turn with
      | error failure =>
        rw [taken] at round
        exact round
      | ok next =>
        rw [taken] at round
        have later := ih round
        dsimp only
        cases ran : next.run rest with
        | error failure =>
          rw [ran] at later
          exact later
        | ok outcome =>
          obtain ⟨finished, left⟩ := outcome
          rw [ran] at later
          obtain ⟨more, split, keeps, ends⟩ := later
          refine ⟨turn :: more, by rw [split, List.cons_append], ?_, ends⟩
          rw [preparedProbes_cons, ← List.append_assoc]
          exact keeps

end EnrollLoop

/-- An enrollment that ends without an error holds every prepared probe once. The probes stand
in the order of their captures, but for the first tipped one, which follows the one captured
after it. No run refuses an insertion because the enrollment is empty or full, or misses the
sample set aside. -/
theorem enrollment_keeps_every_probe (turns : List Turn) :
    (∀ finished rest, EnrollLoop.start.run turns = .ok (finished, rest) →
      finished.policy.complete = true →
        ∃ taken, turns = taken ++ rest ∧
          finished.enrollment.samples.Perm (preparedProbes taken) ∧
          finished.deferredProbe = none ∧
          finished.enrollment.count = finished.policy.touched ∧
          finished.policy.touched = 12 + finished.policy.tipped ∧
          finished.enrollment.count ≤ 20 ∧
          (finished.policy.tipped = 0 ∧ finished.enrollment.samples = preparedProbes taken ∨
            0 < finished.policy.tipped ∧ ∃ before deferred next later,
              preparedProbes taken = before ++ deferred :: next :: later ∧
              finished.enrollment.samples = before ++ next :: deferred :: later)) ∧
      ∀ failure, EnrollLoop.start.run turns = .error failure → ¬failure.Refuses := by
  have run := EnrollLoop.keeps_start.run turns
  constructor
  · intro finished rest ran complete
    rw [ran] at run
    obtain ⟨taken, split, keeps, -⟩ := run
    rw [List.nil_append] at keeps
    have aside : finished.deferredProbe = none := by
      have pending := keeps.pending
      rw [keeps.settled complete] at pending
      exact Option.not_isSome_iff_eq_none.mp (by rw [pending]; exact Bool.false_ne_true)
    have counted := keeps.count
    rw [aside] at counted
    have touched : finished.policy.touched = 12 + finished.policy.tipped := by
      have used := keeps.consistent.used
      have done : engineRequiredSamples ≤ finished.policy.used := of_decide_eq_true complete
      simp only [engineRequiredSamples] at used done
      rw [keeps.consistent.touched]
      omega
    have same : finished.enrollment.count = finished.policy.touched := by
      rw [keeps.touched, counted]
      rfl
    have tipped := keeps.consistent.tipped
    refine ⟨taken, split, ?_, aside, same, touched, by omega, ?_⟩
    · cases keeps.arranged with
      | inOrder untipped aside samples => rw [samples]
      | keptAside deferred tipped held split =>
        rw [aside] at held
        cases held
      | restored before deferred next later tipped aside samples split =>
        rw [samples, split]
        exact List.Perm.append_left before (List.Perm.swap deferred next later)
    · cases keeps.arranged with
      | inOrder untipped aside samples => exact .inl ⟨untipped, samples⟩
      | keptAside deferred tipped held split =>
        rw [aside] at held
        cases held
      | restored before deferred next later tipped aside samples split =>
        exact .inr ⟨tipped, before, deferred, next, later, split, samples⟩
  · intro failure ran
    rw [ran] at run
    exact run

end GoodixSpi.Driver
