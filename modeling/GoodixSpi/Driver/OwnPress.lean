import GoodixSpi.Driver.FingerWait

/-! Every sample of an enrollment comes from its own press, as long as no capture restarts the
session before it has seen the lift that it still has to see. -/

namespace GoodixSpi.Driver

/-- Between any two frames an FDT answer with a zero touch flag was received. -/
def OwnPress (events : List PressEvent) : Prop :=
  ∀ before middle after, events = before ++ .frame :: middle ++ .frame :: after →
    .answer 0 ∈ middle

/-- A frame was delivered and no zero touch was seen after it. -/
def Owes (events : List PressEvent) : Prop :=
  ∃ before later, events = before ++ .frame :: later ∧ .answer 0 ∉ later

variable {events : List PressEvent} {event : PressEvent} {gap : Bool}

lemma owes_concat (owes : Owes (events ++ [event])) :
    event = .frame ∨ Owes events ∧ event ≠ .answer 0 := by
  obtain ⟨before, later, split, unseen⟩ := owes
  rcases List.eq_nil_or_concat later with rfl | ⟨later, last, rfl⟩
  · exact .inl (List.singleton_inj.mp (List.append_inj' split rfl).2)
  · rw [List.concat_eq_append, ← List.cons_append, ← List.append_assoc] at split
    obtain ⟨front, same⟩ := List.append_inj' split rfl
    obtain rfl : event = last := List.singleton_inj.mp same
    rw [List.concat_eq_append, List.mem_append, List.mem_singleton, not_or] at unseen
    exact .inr ⟨⟨before, later, front, unseen.1⟩, Ne.symm unseen.2⟩

lemma OwnPress.concat (own : OwnPress events) (paid : event = .frame → ¬Owes events) :
    OwnPress (events ++ [event]) := by
  intro before middle after split
  rcases List.eq_nil_or_concat after with rfl | ⟨after, last, rfl⟩
  · obtain ⟨front, same⟩ := List.append_inj' split rfl
    by_contra unseen
    exact paid (List.singleton_inj.mp same) ⟨before, middle, front, unseen⟩
  · rw [List.concat_eq_append, ← List.cons_append, ← List.append_assoc] at split
    exact own before middle after (List.append_inj' split rfl).1

/-- As long as no owed gap was dropped by a restart, the frames come from presses of their own. -/
def Own (events : List PressEvent) : Prop := .restart true ∉ events → OwnPress events

/-- Moreover a gap that is owed is one that `require_lift_gap` asks for. -/
def Kept (events : List PressEvent) (gap : Bool) : Prop :=
  .restart true ∉ events → OwnPress events ∧ (Owes events → gap = true)

/-- Moreover no gap is owed. -/
def Clear (events : List PressEvent) : Prop :=
  .restart true ∉ events → OwnPress events ∧ ¬Owes events

lemma Kept.own (kept : Kept events gap) : Own events := fun undropped => (kept undropped).1

lemma Clear.own (clear : Clear events) : Own events := fun undropped => (clear undropped).1

lemma Clear.kept (clear : Clear events) : Kept events gap := by
  intro undropped
  exact ⟨(clear undropped).1, fun owes => ((clear undropped).2 owes).elim⟩

lemma Kept.clear (kept : Kept events false) : Clear events := by
  intro undropped
  exact ⟨(kept undropped).1, fun owes => by cases (kept undropped).2 owes⟩

lemma Own.kept (own : Own events) : Kept events true := fun undropped => ⟨own undropped, fun _ => rfl⟩

lemma not_dropped_concat (undropped : .restart true ∉ events ++ [event]) :
    .restart true ∉ events ∧ event ≠ .restart true := by
  rw [List.mem_append, List.mem_singleton, not_or] at undropped
  exact ⟨undropped.1, Ne.symm undropped.2⟩

lemma Own.answer (own : Own events) (touchflag : UInt8) : Own (events ++ [.answer touchflag]) := by
  intro undropped
  exact (own (not_dropped_concat undropped).1).concat (by rintro ⟨⟩)

lemma Kept.answer (kept : Kept events gap) (touchflag : UInt8) :
    Kept (events ++ [.answer touchflag]) gap := by
  intro undropped
  refine ⟨kept.own.answer touchflag undropped, fun owes => ?_⟩
  rcases owes_concat owes with ⟨⟨⟩⟩ | ⟨earlier, -⟩
  exact (kept (not_dropped_concat undropped).1).2 earlier

lemma Clear.answer (clear : Clear events) (touchflag : UInt8) :
    Clear (events ++ [.answer touchflag]) :=
  (clear.kept.answer touchflag).clear

/-- A zero touch settles what is owed. -/
lemma Own.zero (own : Own events) : Clear (events ++ [.answer 0]) := by
  intro undropped
  refine ⟨own.answer 0 undropped, fun owes => ?_⟩
  rcases owes_concat owes with ⟨⟨⟩⟩ | ⟨-, nonzero⟩
  exact nonzero rfl

/-- The first frame after a settled press may owe a gap again. -/
lemma Clear.frame (clear : Clear events) : Own (events ++ [.frame]) := by
  intro undropped
  obtain ⟨own, settled⟩ := clear (not_dropped_concat undropped).1
  exact own.concat fun _ => settled

/-- A restart with no owed gap leaves none. -/
lemma Kept.restart (kept : Kept events gap) : Clear (events ++ [.restart gap]) := by
  intro undropped
  obtain ⟨earlier, open_⟩ := not_dropped_concat undropped
  refine ⟨(kept earlier).1.concat (by rintro ⟨⟩), fun owes => ?_⟩
  rcases owes_concat owes with ⟨⟨⟩⟩ | ⟨owes, -⟩
  rw [(kept earlier).2 owes] at open_
  exact open_ rfl

namespace FdtState

/-- What reading a response does: it may record an answer, and the obligation stays. -/
structure Reads (before after : FdtState) (result : Except DriverError UInt8) : Prop where
  gap : after.requireLiftGap = before.requireLiftGap
  events : after.events = before.events ∨
    ∃ touchflag, result = .ok touchflag ∧ after.events = before.events ++ [.answer touchflag]
  answered : ∀ touchflag, result = .ok touchflag →
    after.events = before.events ++ [.answer touchflag]

variable {self after : FdtState}

lemma Reads.of_answer {touchflag : UInt8} (gap : after.requireLiftGap = self.requireLiftGap)
    (events : after.events = self.events ++ [.answer touchflag]) :
    Reads self after (.ok touchflag) :=
  ⟨gap, .inr ⟨touchflag, rfl, events⟩, by rintro _ ⟨⟩; exact events⟩

lemma storeSample_gap (touchflag : UInt8) :
    (self.storeSample touchflag).requireLiftGap = self.requireLiftGap := by
  unfold storeSample
  split <;> rfl

lemma storeSample_events (touchflag : UInt8) :
    (self.storeSample touchflag).events = self.events := by
  unfold storeSample
  split <;> rfl

lemma parseFdtUpResponse_reads (self : FdtState) (response : List UInt8) :
    Reads self (self.parseFdtUpResponse response).2 (self.parseFdtUpResponse response).1 := by
  unfold parseFdtUpResponse
  split
  · exact ⟨rfl, .inl rfl, by rintro _ ⟨⟩⟩
  · apply Reads.of_answer
    · simp only
      split
      · exact storeSample_gap _
      · rfl
    · simp only
      split
      · exact storeSample_events _
      · rfl

lemma fdtUpRead_reads (self : FdtState) (response : Except DriverError (List UInt8)) :
    Reads self (self.fdtUpRead response).2 (self.fdtUpRead response).1 := by
  cases response with
  | error error => exact ⟨rfl, .inl rfl, by rintro _ ⟨⟩⟩
  | ok response => exact parseFdtUpResponse_reads self response

lemma fdtManualRead_reads (self : FdtState) (response : Except DriverError (List UInt8)) :
    Reads self (self.fdtManualRead response).2 (self.fdtManualRead response).1 := by
  cases response with
  | error error => exact ⟨rfl, .inl rfl, by rintro _ ⟨⟩⟩
  | ok response =>
    simp only [fdtManualRead]
    split
    · exact ⟨rfl, .inl rfl, by rintro _ ⟨⟩⟩
    · exact Reads.of_answer (storeSample_gap _) (storeSample_events _)

lemma fdtDownRead_gap (response : List UInt8) :
    (self.fdtDownRead response).2.requireLiftGap = self.requireLiftGap := by
  unfold fdtDownRead
  split
  · rfl
  · simp only
    split <;> rfl

/-- A response that is not ignored is recorded. -/
lemma fdtDownRead_events (response : List UInt8) :
    (self.fdtDownRead response).2.events = self.events ∧
        (self.fdtDownRead response).1 = touchIgnore ∨
      (self.fdtDownRead response).2.events =
        self.events ++ [.answer (self.fdtDownRead response).1] := by
  unfold fdtDownRead
  split
  · exact .inl ⟨rfl, rfl⟩
  · apply Or.inr
    simp only
    split <;> rfl

lemma Reads.kept {result : Except DriverError UInt8} (reads : Reads self after result)
    (kept : Kept self.events self.requireLiftGap) : Kept after.events after.requireLiftGap := by
  rw [reads.gap]
  rcases reads.events with same | ⟨touchflag, -, grown⟩
  · rwa [same]
  · rw [grown]
    exact kept.answer touchflag

lemma Reads.own {result : Except DriverError UInt8} (reads : Reads self after result)
    (own : Own self.events) : Own after.events := by
  rcases reads.events with same | ⟨touchflag, -, grown⟩
  · rwa [same]
  · rw [grown]
    exact own.answer touchflag

lemma Reads.clear {result : Except DriverError UInt8} (reads : Reads self after result)
    (clear : Clear self.events) : Clear after.events := by
  rcases reads.events with same | ⟨touchflag, -, grown⟩
  · rwa [same]
  · rw [grown]
    exact clear.answer touchflag

/-- How a wait for a finger leaves the device. -/
def Waited (result : Option (Except DriverError Unit) × FdtState) : Prop :=
  Kept result.2.events result.2.requireLiftGap ∧
    (result.1 = some (.ok ()) → result.2.requireLiftGap = false)

lemma fingerRounds_waited (triggerMin : Nat) (rounds : List FingerRound) {self : FdtState}
    (kept : Kept self.events self.requireLiftGap) :
    Waited (self.fingerRounds triggerMin rounds) := by
  induction rounds generalizing self with
  | nil => exact ⟨kept, by rintro ⟨⟩⟩
  | cons round rest ih =>
    simp only [fingerRounds]
    split
    · exact ⟨kept, by rintro ⟨⟩⟩
    · split
      · exact ⟨kept, by rintro ⟨⟩⟩
      · split
        · split
          · exact ⟨kept, by rintro ⟨⟩⟩
          · split
            · exact ih kept
            · split
              · exact ⟨kept, by rintro ⟨⟩⟩
              · exact ih kept
        · rename_i response _
          have gap := self.fdtDownRead_gap response
          rcases self.fdtDownRead_events response with ⟨same, ignored⟩ | grown
          · rw [if_pos ignored]
            have unread : Kept (self.fdtDownRead response).2.events
                (self.fdtDownRead response).2.requireLiftGap := by
              rwa [same, gap]
            split
            · exact ⟨unread, by rintro ⟨⟩⟩
            · exact ih unread
          · have answered : Kept (self.fdtDownRead response).2.events
                (self.fdtDownRead response).2.requireLiftGap := by
              rw [grown, gap]
              exact kept.answer _
            split
            · split
              · exact ⟨answered, by rintro ⟨⟩⟩
              · exact ih answered
            · split
              · split
                · exact ⟨answered, by rintro ⟨⟩⟩
                · exact ih answered
              · rename_i observed
                have clear : Clear (self.fdtDownRead response).2.events := by
                  by_cases zero : (self.fdtDownRead response).1 = 0
                  · rw [grown, zero]
                    exact kept.own.zero
                  · have unowed : (self.fdtDownRead response).2.requireLiftGap = false := by
                      simpa [zero] using observed
                    rw [unowed] at answered
                    exact answered.clear
                split
                · exact ⟨clear.kept, fun _ => rfl⟩
                · split
                  · exact ⟨clear.kept, by rintro ⟨⟩⟩
                  · exact ih clear.kept

lemma waitForFinger_waited (triggerMin : Nat) (wait : FingerWait) {self : FdtState}
    (kept : Kept self.events self.requireLiftGap) :
    Waited (self.waitForFinger triggerMin wait) := by
  have measured : Kept (self.fdtMeasureBase wait.base).events
      (self.fdtMeasureBase wait.base).requireLiftGap :=
    (fdtManualRead_reads self wait.base).kept kept
  unfold waitForFinger
  by_cases valid : self.fdtBaselineValid
  · simp only [valid, if_true]
    split
    · exact ⟨kept, by rintro ⟨⟩⟩
    · exact fingerRounds_waited triggerMin wait.rounds kept
  · simp only [valid, if_false, Bool.false_eq_true]
    split
    · exact ⟨measured, by rintro ⟨⟩⟩
    · exact fingerRounds_waited triggerMin wait.rounds measured

/-- How a wait for the lift leaves the device. -/
def Lifted (result : Option (Except DriverError Unit) × FdtState) : Prop :=
  Own result.2.events ∧ (result.1 = some (.ok ()) → Clear result.2.events)

lemma liftRounds_lifted (rounds : List LiftRound) {self : FdtState} (own : Own self.events) :
    Lifted (self.liftRounds rounds) := by
  induction rounds generalizing self with
  | nil => exact ⟨own, by rintro ⟨⟩⟩
  | cons round rest ih =>
    -- an answer of either kind ends the wait if its touch flag is zero
    have answered : ∀ {before after : FdtState} {touchflag : UInt8}, Own before.events →
        Reads before after (.ok touchflag) →
        Lifted (if touchflag = 0 then (some (.ok ()), after) else after.liftRounds rest) := by
      intro before after touchflag own reads
      split
      · rename_i zero
        refine ⟨reads.own own, fun _ => ?_⟩
        rw [reads.answered touchflag rfl, zero]
        exact own.zero
      · exact ih (reads.own own)
    have read := fdtUpRead_reads self round.response
    simp only [liftRounds]
    split
    · exact ⟨own, by rintro ⟨⟩⟩
    · split
      · exact ⟨own, by rintro ⟨⟩⟩
      · split
        · exact ⟨own, by rintro ⟨⟩⟩
        · split
          · exact ⟨own, by rintro ⟨⟩⟩
          · split
            · rename_i touchflag after made
              rw [made] at read
              exact answered own read
            · rename_i error after made
              rw [made] at read
              have own := read.own own
              have manual := fdtManualRead_reads after round.manual
              split
              · split
                · rename_i probed
                  rw [probed] at manual
                  exact ih (manual.own own)
                · rename_i probed
                  rw [probed] at manual
                  exact answered own manual
              · exact ⟨own, by rintro ⟨⟩⟩

lemma waitForLiftReport_kept (rounds : List LiftRound) {self : FdtState} (own : Own self.events) :
    Own (self.waitForLiftReport rounds).2.events ∧
      ((self.waitForLiftReport rounds).1 = some true →
        Kept (self.waitForLiftReport rounds).2.events
          (self.waitForLiftReport rounds).2.requireLiftGap) := by
  have lifted := liftRounds_lifted rounds own
  unfold waitForLiftReport
  split
  · rename_i after waited
    rw [waited] at lifted
    exact ⟨lifted.1, by rintro ⟨⟩⟩
  · rename_i after waited
    rw [waited] at lifted
    exact ⟨lifted.1, fun _ => (lifted.2 rfl).kept⟩
  · rename_i error after waited
    rw [waited] at lifted
    split
    · exact ⟨lifted.1, fun _ => lifted.1.kept⟩
    · exact ⟨lifted.1, by rintro ⟨⟩⟩

lemma activateAttempt_clear (responses : List (Except DriverError (List UInt8)))
    {self : FdtState} (clear : Clear self.events) :
    Clear (self.activateAttempt responses).events := by
  have reset : Clear self.resetCaptureState.events := clear
  unfold activateAttempt
  refine List.foldlRecOn (motive := fun (after : FdtState) => Clear after.events) _ _ reset ?_
  intro before clear response _
  exact (fdtManualRead_reads before response).clear clear

lemma activate_clear (reactivation : Reactivation) {self : FdtState} (clear : Clear self.events) :
    Clear (self.activate reactivation).2.events := by
  cases reactivation with
  | failed error => exact clear
  | activated earlier last =>
    refine List.foldlRecOn (motive := fun (after : FdtState) => Clear after.events) _ _ clear ?_
    intro before clear responses _
    exact activateAttempt_clear responses clear

/-- How one session attempt leaves the device: with a frame, restarted, or at its end. -/
structure Attempted (result : Option (Except DriverError Bool) × FdtState) : Prop where
  own : Own result.2.events
  restarted : result.1 = some (.ok false) → Kept result.2.events result.2.requireLiftGap

lemma restartOrFail_attempted (restarts : Bool) (reactivation : Reactivation)
    (error : DriverError) {self : FdtState} (kept : Kept self.events self.requireLiftGap) :
    Attempted (self.restartOrFail restarts reactivation error) := by
  have clear : Clear ((self.record (.restart self.requireLiftGap)).activate
      reactivation).2.events := activate_clear reactivation kept.restart
  unfold restartOrFail
  split
  · split
    · rename_i activated
      rw [activated] at clear
      exact ⟨clear.own, by rintro ⟨⟩⟩
    · rename_i activated
      rw [activated] at clear
      exact ⟨clear.own, fun _ => clear.kept⟩
  · exact ⟨kept.own, by rintro ⟨⟩⟩

lemma sessionAttempt_attempted (triggerMin : Nat) (restarts : Bool) (attempt : SessionAttempt)
    {self : FdtState} (kept : Kept self.events self.requireLiftGap) :
    Attempted (self.sessionAttempt triggerMin restarts attempt) := by
  have waited := waitForFinger_waited triggerMin attempt.wait kept
  unfold sessionAttempt
  split
  · rename_i after ended
    rw [ended] at waited
    exact ⟨waited.1.own, by rintro ⟨⟩⟩
  · rename_i error after ended
    rw [ended] at waited
    exact restartOrFail_attempted restarts attempt.reactivation error waited.1
  · rename_i after ended
    rw [ended] at waited
    split
    · exact restartOrFail_attempted restarts attempt.reactivation _ waited.1
    · obtain ⟨kept, settled⟩ := waited
      rw [settled rfl] at kept
      exact ⟨kept.clear.frame, by rintro ⟨⟩⟩

lemma captureOneRaw16_own (triggerMin : Nat) (first second : SessionAttempt) {self : FdtState}
    (kept : Kept self.events self.requireLiftGap) :
    Own (self.captureOneRaw16 triggerMin first second).2.events := by
  have attempted := sessionAttempt_attempted triggerMin true first kept
  unfold captureOneRaw16
  split
  · rename_i ended
    rw [ended] at attempted
    exact attempted.own
  · rename_i ended
    rw [ended] at attempted
    exact attempted.own
  · rename_i ended
    rw [ended] at attempted
    exact attempted.own
  · rename_i after ended
    rw [ended] at attempted
    have again := sessionAttempt_attempted triggerMin false second (attempted.restarted rfl)
    split <;> rename_i ended <;> rw [ended] at again <;> exact again.own

end FdtState

lemma enrollPresses_own (triggerMin : Nat) (loop : EnrollLoop) (presses : List Press)
    {fdt : FdtState} (kept : Kept fdt.events fdt.requireLiftGap) :
    Own (enrollPresses triggerMin loop fdt presses).events := by
  induction presses generalizing loop fdt with
  | nil => exact kept.own
  | cons press rest ih =>
    have captured := fdt.captureOneRaw16_own triggerMin press.first press.second kept
    unfold enrollPresses
    split
    · exact kept.own
    · split
      · rename_i after ended
        rw [ended] at captured
        split
        · exact captured
        · split
          · exact captured
          · have lifted := after.waitForLiftReport_kept press.lift captured
            split
            · rename_i reported
              rw [reported] at lifted
              exact ih _ (lifted.2 rfl)
            · rename_i reported
              rw [reported] at lifted
              exact lifted.1
      · rename_i ended
        rw [ended] at captured
        exact captured

/-- Between two frames of an enrollment the driver received a zero touch, in every run where no
capture restarts the session while `require_lift_gap` is set. -/
theorem enrollment_frames_have_own_press (sensorProfile : Option UInt8)
    (fdtDownSampleValid fdtBaselineValid requireLiftGap : Bool) (reactivation : Reactivation)
    (presses : List Press)
    (undropped : .restart true ∉ (enrollSync sensorProfile fdtDownSampleValid fdtBaselineValid
      requireLiftGap reactivation presses).events) :
    OwnPress (enrollSync sensorProfile fdtDownSampleValid fdtBaselineValid requireLiftGap
      reactivation presses).events := by
  have fresh : Clear [] := fun _ => ⟨by simp [OwnPress], by simp [Owes]⟩
  have activated : Clear ((⟨fdtDownSampleValid, fdtBaselineValid, requireLiftGap, []⟩ :
      FdtState).activate reactivation).2.events := FdtState.activate_clear reactivation fresh
  revert undropped
  unfold enrollSync
  simp only
  split
  · rename_i made
    rw [made] at activated
    exact activated.own
  · rename_i made
    rw [made] at activated
    exact enrollPresses_own _ _ presses activated.kept

/-- An FDT response of twenty bytes. -/
def fdtResponse (command touchflag : UInt8) : List UInt8 :=
  [command, 17, 0, 0, 0, touchflag] ++ List.replicate 14 0x80

/-- A wait that FDT-down answers with these touch flags. -/
def answeredWait (touchflags : List UInt8) : FingerWait where
  base := .ok (fdtResponse 0x36 0)
  arm := .ok ()
  rounds := touchflags.map fun touchflag =>
    ⟨none, false, .ok (fdtResponse 0x32 touchflag), false, .ok ()⟩

/-- A wait that cannot arm FDT-down, as the connection was closed. -/
def closedWait : FingerWait where
  base := .ok (fdtResponse 0x36 0)
  arm := .error ⟨.connectionClosed, "gdix51c0: listener stopped"⟩
  rounds := []

/-- A press whose frame is rejected and whose finger stays until the lift wait times out. -/
def heldPress (first second : FingerWait) : Press where
  first := ⟨first, .ok (), .activated [] []⟩
  second := ⟨second, .ok (), .activated [] []⟩
  capture := .rejected .poorCapture
  lift :=
    [⟨none, false, .ok (), .error ⟨.timedOut, "gdix51c0: no FDT-up"⟩, .ok (fdtResponse 0x36 0x3f)⟩,
      ⟨none, true, .ok (), .ok (fdtResponse cmdFdtUp 0x3f), .ok (fdtResponse 0x36 0x3f)⟩]

theorem enrollment_frames_have_own_press_held :
    .restart true ∉ (enrollSync none false false false (.activated [] [])
      [heldPress (answeredWait [0x3f]) (answeredWait []),
        heldPress (answeredWait [0x3f, 0, 0x3f]) (answeredWait [])]).events ∧
      OwnPress (enrollSync none false false false (.activated [] [])
        [heldPress (answeredWait [0x3f]) (answeredWait []),
          heldPress (answeredWait [0x3f, 0, 0x3f]) (answeredWait [])]).events := by
  have undropped : .restart true ∉ (enrollSync none false false false (.activated [] [])
      [heldPress (answeredWait [0x3f]) (answeredWait []),
        heldPress (answeredWait [0x3f, 0, 0x3f]) (answeredWait [])]).events := by
    decide +kernel
  exact ⟨undropped, enrollment_frames_have_own_press _ _ _ _ _ _ undropped⟩

/-- The restarted session forgets the gap, and the press that never ended is captured again. -/
theorem restart_forgets_lift_gap :
    ¬∀ (sensorProfile : Option UInt8) (fdtDownSampleValid fdtBaselineValid requireLiftGap : Bool)
      (reactivation : Reactivation) (presses : List Press),
      OwnPress (enrollSync sensorProfile fdtDownSampleValid fdtBaselineValid requireLiftGap
        reactivation presses).events := by
  intro own
  have events : (enrollSync none false true false (.activated [] [])
      [heldPress (answeredWait [0x3f]) (answeredWait []),
        heldPress closedWait (answeredWait [0x3f])]).events =
      [.answer 0x3f] ++ .frame :: [.answer 0x3f, .restart true, .answer 0x3f] ++
        .frame :: [.answer 0x3f] := by
    decide +kernel
  have seen := own _ _ _ _ _ _ _ _ _ events
  simp at seen

end GoodixSpi.Driver
