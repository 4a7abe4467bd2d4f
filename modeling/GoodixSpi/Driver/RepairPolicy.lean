import GoodixSpi.Driver.PskRepair

/-! What a PSK repair needs and how often it can happen, over all the activations of an open. -/

namespace GoodixSpi.Driver

/-- The handshake failed with `PERMISSION_DENIED`. -/
def Handshake.Denied (handshake : Handshake) : Prop :=
  ∃ error, handshake.result = .error error ∧ error.code = .permissionDenied

namespace ActivationRecord

/-- The activation wrote the PSK because a repair was pending. -/
def IsRepair (record : ActivationRecord) : Prop :=
  record.repairRequested = true ∧ record.write.isSome = true

instance (record : ActivationRecord) : Decidable record.IsRepair :=
  inferInstanceAs (Decidable (_ ∧ _))

/-- A handshake of the activation failed with `PERMISSION_DENIED`. -/
def Denied (record : ActivationRecord) : Prop :=
  ∃ handshake, record.handshake = some handshake ∧ handshake.Denied

/-- What holds of each activation, whatever came before it. -/
structure Sound (ioErrorFromErrno : Int → IoErrorCode) (record : ActivationRecord) : Prop where
  authorized : record.env.prov = none → record.write = none
  restores : record.IsRepair → ∀ prov, record.env.prov = some prov → isRandom prov = true →
    ∀ key, record.env.existing = some key → record.write = some key
  noHandshake : record.IsRepair → record.handshake = none
  result : ∀ handshake, record.handshake = some handshake →
    handshake.result = tlsHandshake ioErrorFromErrno handshake.first handshake.second

end ActivationRecord


/-- The result of the handshake, if there was one. -/
def TlsStart.Resulted (ioErrorFromErrno : Int → IoErrorCode) (start : TlsStart) : Prop :=
  ∀ handshake, start.handshake = some handshake →
    handshake.result = tlsHandshake ioErrorFromErrno handshake.first handshake.second

lemma TlsStart.Resulted.of_none {ioErrorFromErrno : Int → IoErrorCode} {start : TlsStart}
    (idle : start.handshake = none) : start.Resulted ioErrorFromErrno := by
  intro handshake made
  cases idle.symm.trans made

namespace PskSession

variable {ioErrorFromErrno : Int → IoErrorCode} {self : PskSession} {env : Activation}

/-- What follows the provisioning leaves the flags alone, or asks for a first repair. -/
structure Connected (ioErrorFromErrno : Int → IoErrorCode) (session : PskSession)
    (write : Option Psk) (start : TlsStart) : Prop where
  log : start.session.log = session.log
  attempted : start.session.pskReprovisionAttemptedThisOpen =
    session.pskReprovisionAttemptedThisOpen
  pending : start.session.pskReprovisionPending = session.pskReprovisionPending ∨
    session.pskReprovisionAttemptedThisOpen = false ∧
      ∃ handshake, start.handshake = some handshake ∧ handshake.Denied
  write : start.write = write
  resulted : start.Resulted ioErrorFromErrno

lemma connect_spec (existing write : Option Psk) :
    self.Connected ioErrorFromErrno write (self.connect ioErrorFromErrno env existing write) := by
  unfold connect
  split
  · exact ⟨rfl, rfl, .inl rfl, rfl, .of_none rfl⟩
  · exact ⟨rfl, rfl, .inl rfl, rfl, .of_none rfl⟩
  · rename_i psk _ _
    have made : ∀ handshake, some (Handshake.mk (env.attempts psk).1 (env.attempts psk).2
        (tlsHandshake ioErrorFromErrno (env.attempts psk).1 (env.attempts psk).2)) =
          some handshake →
        handshake.result = tlsHandshake ioErrorFromErrno handshake.first handshake.second := by
      rintro _ ⟨⟩
      rfl
    simp only
    split
    · rename_i error failed
      split
      · rename_i scheduled
        simp only [Bool.and_eq_true, decide_eq_true_eq, Bool.not_eq_true'] at scheduled
        exact ⟨rfl, rfl, .inr ⟨scheduled.2, _, rfl, error, failed, scheduled.1.1.1⟩, rfl, made⟩
      · exact ⟨rfl, rfl, .inl rfl, rfl, made⟩
    · split
      · exact ⟨rfl, rfl, .inl rfl, rfl, made⟩
      · exact ⟨rfl, rfl, .inl rfl, rfl, made⟩

/-- What `gdix51c0_session_tls_start` may do to the flags, the sensor and the handshake. -/
structure Started (ioErrorFromErrno : Int → IoErrorCode) (session : PskSession)
    (env : Activation) (start : TlsStart) : Prop where
  log : start.session.log = session.log
  pending : start.session.pskReprovisionPending = true →
    start.session.pskReprovisionAttemptedThisOpen = session.pskReprovisionAttemptedThisOpen ∧
      (session.pskReprovisionPending = true ∨
        session.pskReprovisionAttemptedThisOpen = false ∧
          ∃ handshake, start.handshake = some handshake ∧ handshake.Denied)
  attempted : session.pskReprovisionAttemptedThisOpen = true →
    start.session.pskReprovisionAttemptedThisOpen = true
  authorized : env.prov = none → start.write = none
  repair : session.pskReprovisionPending = true → start.write.isSome = true →
    start.session.pskReprovisionAttemptedThisOpen = true ∧ start.handshake = none ∧
      ∃ prov, env.prov = some prov ∧ env.want true prov = .ok start.write
  resulted : start.Resulted ioErrorFromErrno

lemma Connected.started {write : Option Psk} {start : TlsStart}
    (connected : self.Connected ioErrorFromErrno write start)
    (authorized : env.prov = none → write = none)
    (repair : self.pskReprovisionPending = true → write = none) :
    self.Started ioErrorFromErrno env start where
  log := connected.log
  pending := by
    intro pending
    refine ⟨connected.attempted, ?_⟩
    rcases connected.pending with same | first
    · exact .inl (same.symm.trans pending)
    · exact .inr first
  attempted := connected.attempted.trans
  authorized unset := connected.write.trans (authorized unset)
  repair pending wrote := by
    rw [connected.write, repair pending] at wrote
    cases wrote
  resulted := connected.resulted

variable (ioErrorFromErrno self env) in
lemma tlsStart_spec : self.Started ioErrorFromErrno env (self.tlsStart ioErrorFromErrno env) := by
  cases provided : env.prov with
  | none =>
    simp only [tlsStart, provided]
    exact (connect_spec _ _).started (fun _ => rfl) fun _ => rfl
  | some prov =>
    have set : env.prov ≠ none := by simp [provided]
    cases wanted : env.want self.pskReprovisionPending prov with
    | error error =>
      simp only [tlsStart, provided, wanted]
      exact ⟨rfl, fun pending => ⟨rfl, .inl pending⟩, id, fun _ => rfl, by simp, .of_none rfl⟩
    | ok want =>
      cases want with
      | none =>
        simp only [tlsStart, provided, wanted]
        exact (connect_spec _ _).started (fun _ => rfl) fun _ => rfl
      | some want =>
        simp only [tlsStart, provided, wanted]
        cases requested : self.pskReprovisionPending with
        | true =>
          rw [requested] at wanted
          cases env.provision with
          | refused error => exact ⟨rfl, by simp, by simp, fun _ => rfl, by simp, .of_none rfl⟩
          | failed error =>
            exact ⟨rfl, by simp, by simp, (absurd · set), by simp [provided, wanted], .of_none rfl⟩
          | verified =>
            exact ⟨rfl, by simp, by simp, (absurd · set), by simp [provided, wanted], .of_none rfl⟩
        | false =>
          cases env.provision with
          | refused error => exact ⟨rfl, by simp [requested], id, fun _ => rfl, by simp, .of_none rfl⟩
          | failed error =>
            exact ⟨rfl, by simp [requested], id, (absurd · set), by simp [requested], .of_none rfl⟩
          | verified =>
            exact (connect_spec _ _).started (absurd · set) (by simp [requested])

/-- What one activation did and what it left. -/
structure Activated (ioErrorFromErrno : Int → IoErrorCode) (session : PskSession)
    (record : ActivationRecord) (after : PskSession) : Prop where
  log : after.log = session.log ++ [record]
  pending : after.pskReprovisionPending = true →
    after.pskReprovisionAttemptedThisOpen = session.pskReprovisionAttemptedThisOpen ∧
      (session.pskReprovisionPending = true ∨
        session.pskReprovisionAttemptedThisOpen = false ∧ record.Denied)
  attempted : session.pskReprovisionAttemptedThisOpen = true →
    after.pskReprovisionAttemptedThisOpen = true
  repair : record.IsRepair → session.pskReprovisionPending = true ∧
    after.pskReprovisionAttemptedThisOpen = true
  sound : record.Sound ioErrorFromErrno

lemma activated_idle (session : PskSession) (env : Activation) :
    session.Activated ioErrorFromErrno ⟨env, session.pskReprovisionPending, none, none⟩
      (session.logged ⟨env, session.pskReprovisionPending, none, none⟩) where
  log := rfl
  pending pending := ⟨rfl, .inl pending⟩
  attempted := id
  repair isRepair := by cases isRepair.2
  sound :=
    { authorized := fun _ => rfl
      restores := by
        intro isRepair
        cases isRepair.2
      noHandshake := fun _ => rfl
      result := by
        rintro _ ⟨⟩ }

/-- With the value `random` the key in hand is the one to restore. -/
lemma want_random {prov : List UInt8} (random : isRandom prov = true) {key : Psk}
    (existing : env.existing = some key) : env.want true prov = .ok (some key) := by
  simp [Activation.want, random, existing]

lemma Started.activated {start : TlsStart} (started : self.Started ioErrorFromErrno env start) :
    self.Activated ioErrorFromErrno
      ⟨env, self.pskReprovisionPending, start.write, start.handshake⟩
      (start.session.logged
        ⟨env, self.pskReprovisionPending, start.write, start.handshake⟩) where
  log := congrArg (· ++ _) started.log
  pending := started.pending
  attempted := started.attempted
  repair isRepair := ⟨isRepair.1, (started.repair isRepair.1 isRepair.2).1⟩
  sound :=
    { authorized := started.authorized
      restores := by
        intro isRepair prov provided random key existing
        obtain ⟨-, -, prov', provided', wanted⟩ := started.repair isRepair.1 isRepair.2
        obtain rfl : prov' = prov := Option.some.inj (provided'.symm.trans provided)
        have same := (want_random random existing).symm.trans wanted
        exact (Except.ok.inj same).symm
      noHandshake := fun isRepair => (started.repair isRepair.1 isRepair.2).2.1
      result := started.resulted }

variable (ioErrorFromErrno) in
lemma activateOnce_spec (session : PskSession) (env : Activation) :
    ∃ record, session.Activated ioErrorFromErrno record
      (session.activateOnce ioErrorFromErrno env).2 := by
  unfold activateOnce
  split
  · exact ⟨_, activated_idle session env⟩
  · exact ⟨_, activated_idle session env⟩
  · have activated := (tlsStart_spec ioErrorFromErrno session env).activated
    refine ⟨⟨env, session.pskReprovisionPending, (session.tlsStart ioErrorFromErrno env).write,
      (session.tlsStart ioErrorFromErrno env).handshake⟩, ?_⟩
    simp only
    split
    · exact activated
    · split
      · exact activated
      · exact activated

/-- The contract of repairs as far as it does not depend on what a refused handshake saw. -/
structure RepairsBounded (ioErrorFromErrno : Int → IoErrorCode) (log : List ActivationRecord) :
    Prop where
  sound : ∀ record ∈ log, record.Sound ioErrorFromErrno
  once : (log.filter fun record => record.IsRepair).length ≤ 1
  justified : ∀ before record after, log = before ++ record :: after → record.IsRepair →
    ∃ earlier ∈ before, earlier.Denied

/-- The flags of an open and its record. -/
structure Invariant (ioErrorFromErrno : Int → IoErrorCode) (session : PskSession) : Prop where
  bounded : RepairsBounded ioErrorFromErrno session.log
  pending : session.pskReprovisionPending = true →
    session.pskReprovisionAttemptedThisOpen = false ∧ ∃ record ∈ session.log, record.Denied
  unattempted : session.pskReprovisionAttemptedThisOpen = false →
    ∀ record ∈ session.log, ¬record.IsRepair

lemma RepairsBounded.concat {log : List ActivationRecord} {record : ActivationRecord}
    (bounded : RepairsBounded ioErrorFromErrno log) (sound : record.Sound ioErrorFromErrno)
    (first : record.IsRepair → (∀ earlier ∈ log, ¬earlier.IsRepair) ∧
      ∃ earlier ∈ log, earlier.Denied) :
    RepairsBounded ioErrorFromErrno (log ++ [record]) where
  sound := by
    intro other listed
    rcases List.mem_append.mp listed with earlier | last
    · exact bounded.sound other earlier
    · rwa [List.mem_singleton.mp last]
  once := by
    rw [List.filter_append, List.length_append]
    by_cases isRepair : record.IsRepair
    · have none : log.filter (fun record => decide record.IsRepair) = [] := by
        rw [List.filter_eq_nil_iff]
        exact fun earlier listed => by simpa using (first isRepair).1 earlier listed
      simp [none, isRepair]
    · simpa [isRepair] using bounded.once
  justified := by
    intro before other after split isRepair
    rcases List.eq_nil_or_concat after with rfl | ⟨after, last, rfl⟩
    · obtain ⟨rfl, same⟩ := List.append_inj' split rfl
      obtain rfl : record = other := List.singleton_inj.mp same
      exact (first isRepair).2
    · rw [List.concat_eq_append, ← List.cons_append, ← List.append_assoc] at split
      exact bounded.justified before other after (List.append_inj' split rfl).1 isRepair

lemma Activated.invariant {session after : PskSession} {record : ActivationRecord}
    (activated : session.Activated ioErrorFromErrno record after)
    (invariant : session.Invariant ioErrorFromErrno) : after.Invariant ioErrorFromErrno where
  bounded := by
    rw [activated.log]
    apply invariant.bounded.concat activated.sound
    intro isRepair
    obtain ⟨fresh, denied⟩ := invariant.pending (activated.repair isRepair).1
    exact ⟨invariant.unattempted fresh, denied⟩
  pending := by
    intro pending
    obtain ⟨same, earlier | ⟨fresh, denied⟩⟩ := activated.pending pending
    · obtain ⟨fresh, denied, listed, isDenied⟩ := invariant.pending earlier
      exact ⟨same.trans fresh, denied,
        activated.log ▸ List.mem_append_left _ listed, isDenied⟩
    · exact ⟨same.trans fresh, record, by simp [activated.log], denied⟩
  unattempted := by
    intro fresh other listed isRepair
    have before : session.pskReprovisionAttemptedThisOpen = false := by
      by_contra attempted
      rw [Bool.not_eq_false] at attempted
      simp [activated.attempted attempted] at fresh
    rw [activated.log] at listed
    rcases List.mem_append.mp listed with earlier | last
    · exact invariant.unattempted before other earlier isRepair
    · rw [List.mem_singleton.mp last] at isRepair
      simp [(activated.repair isRepair).2] at fresh

lemma Invariant.deactivate {session : PskSession} (invariant : session.Invariant ioErrorFromErrno) :
    session.deactivate.Invariant ioErrorFromErrno :=
  ⟨invariant.bounded, invariant.pending, invariant.unattempted⟩

lemma opened_invariant (session : PskSession) : session.opened.Invariant ioErrorFromErrno where
  bounded := ⟨by simp [opened], by simp [opened], by simp [opened]⟩
  pending := by simp [opened]
  unattempted := by simp [opened]

lemma activateOnce_invariant {session after : PskSession} {result : Except DriverError Unit}
    (once : session.activateOnce ioErrorFromErrno env = (result, after))
    (invariant : session.Invariant ioErrorFromErrno) : after.Invariant ioErrorFromErrno := by
  obtain ⟨record, activated⟩ := activateOnce_spec ioErrorFromErrno session env
  rw [once] at activated
  exact activated.invariant invariant

lemma activateOnce_length {session after : PskSession} {result : Except DriverError Unit}
    (once : session.activateOnce ioErrorFromErrno env = (result, after)) :
    after.deactivate.log.length = session.log.length + 1 := by
  obtain ⟨record, activated⟩ := activateOnce_spec ioErrorFromErrno session env
  rw [once] at activated
  simpa [deactivate] using congrArg List.length activated.log

lemma activateLoop_invariant (maxAttempts : Nat) (rounds : Nat → Round) (round failures : Nat)
    (repairBudgetGranted : Bool) {session : PskSession}
    (invariant : session.Invariant ioErrorFromErrno) :
    (session.activateLoop ioErrorFromErrno maxAttempts rounds round failures
      repairBudgetGranted).2.Invariant ioErrorFromErrno := by
  fun_induction activateLoop ioErrorFromErrno maxAttempts rounds round failures
      repairBudgetGranted session with
  | case1 => exact invariant
  | case2 _ _ _ _ _ _ _ once => exact activateOnce_invariant once invariant
  | case3 _ _ _ _ _ _ _ _ once => exact (activateOnce_invariant once invariant).deactivate
  | case4 _ _ _ _ _ _ _ _ once _ _ _ ih =>
    exact ih (activateOnce_invariant once invariant).deactivate
  | case5 _ _ _ _ _ _ _ _ once => exact (activateOnce_invariant once invariant).deactivate
  | case6 _ _ _ _ _ _ _ _ once => exact (activateOnce_invariant once invariant).deactivate
  | case7 _ _ _ _ _ _ _ _ once _ _ _ _ _ ih =>
    exact ih (activateOnce_invariant once invariant).deactivate
  | case8 => exact invariant

variable (ioErrorFromErrno) in
/-- The failures that are left bound the activations to come; a repair brings them back once. -/
lemma activateLoop_length (maxAttempts : Nat) (rounds : Nat → Round) (round failures : Nat)
    (repairBudgetGranted : Bool) (session : PskSession) (left : failures ≤ maxAttempts) :
    (session.activateLoop ioErrorFromErrno maxAttempts rounds round failures
      repairBudgetGranted).2.log.length + failures ≤
      session.log.length + maxAttempts + if repairBudgetGranted then 0 else maxAttempts := by
  fun_induction activateLoop ioErrorFromErrno maxAttempts rounds round failures
      repairBudgetGranted session with
  | case1 => simp only; omega
  | case2 _ _ _ _ more _ _ once =>
    have counted := activateOnce_length once
    simp only [deactivate] at counted ⊢
    omega
  | case3 _ _ _ _ more _ _ _ once =>
    have counted := activateOnce_length once
    simp only
    omega
  | case4 _ _ _ _ more _ _ _ once _ _ fresh ih =>
    have counted := activateOnce_length once
    simp only [Bool.and_eq_true, Bool.not_eq_true'] at fresh
    simp only [fresh.2, if_true, Bool.false_eq_true, if_false] at ih ⊢
    have bound := ih (Nat.zero_le _)
    omega
  | case5 _ _ _ _ more _ _ _ once =>
    have counted := activateOnce_length once
    simp only
    omega
  | case6 _ _ _ _ more _ _ _ once =>
    have counted := activateOnce_length once
    simp only
    omega
  | case7 _ _ _ _ more _ _ _ once _ _ _ _ _ ih =>
    have counted := activateOnce_length once
    have bound := ih more
    omega
  | case8 => simp only; omega

lemma call_invariant {session : PskSession} (invariant : session.Invariant ioErrorFromErrno)
    (call : Call) : (session.call ioErrorFromErrno call).Invariant ioErrorFromErrno := by
  cases call with
  | activate maxAttempts rounds imageBaseRefreshed primeT0 =>
    simp only [PskSession.call, activateWithAttempts]
    split
    · exact invariant
    · exact activateLoop_invariant _ _ _ _ _ invariant
  | deactivate => exact invariant.deactivate

variable (ioErrorFromErrno) in
lemma run_invariant (session : PskSession) (calls : List Call) :
    (session.run ioErrorFromErrno calls).Invariant ioErrorFromErrno :=
  List.foldlRecOn calls _ (opened_invariant session) fun _ invariant call _ =>
    call_invariant invariant call

lemma activateWithAttempts_length (session : PskSession) (maxAttempts : Nat)
    (rounds : Nat → Round) (imageBaseRefreshed : Bool) (primeT0 : Except DriverError Unit) :
    (session.activateWithAttempts ioErrorFromErrno maxAttempts rounds imageBaseRefreshed
      primeT0).2.log.length ≤ session.log.length + 2 * max maxAttempts 1 := by
  unfold activateWithAttempts
  split
  · exact Nat.le_add_right _ _
  · have bound := activateLoop_length ioErrorFromErrno (max maxAttempts 1) rounds 0 0 false
      session (Nat.zero_le _)
    simp only [Bool.false_eq_true, if_false] at bound
    omega

end PskSession

/-- The contract of automatic repair over the activations of one open. -/
structure RepairContract (log : List ActivationRecord) : Prop where
  authorized : ∀ record ∈ log, record.env.prov = none → record.write = none
  once : (log.filter fun record => record.IsRepair).length ≤ 1
  justified : ∀ before record after, log = before ++ record :: after → record.IsRepair →
    ∃ earlier ∈ before, earlier.Denied
  genuine : ∀ record ∈ log, ∀ handshake, record.handshake = some handshake → handshake.Denied →
    handshake.first.AuthRecordFailure ∧ handshake.second.AuthRecordFailure
  restores : ∀ record ∈ log, record.IsRepair → ∀ prov, record.env.prov = some prov →
    isRandom prov = true → ∀ key, record.env.existing = some key → record.write = some key
  noHandshake : ∀ record ∈ log, record.IsRepair → record.handshake = none

/-- No trigger of a handshake is denied by the `errno` of its SPI write. -/
def TriggersPermitted (ioErrorFromErrno : Int → IoErrorCode) (log : List ActivationRecord) : Prop :=
  ∀ record ∈ log, ∀ handshake, record.handshake = some handshake →
    ∀ write ∈ triggerWrites handshake.first handshake.second,
      ¬TriggerDenied ioErrorFromErrno write

/-- A denied trigger is no evidence against the key: its attempt made no handshake. -/
lemma not_authRecordFailure_of_triggerDenied {ioErrorFromErrno : Int → IoErrorCode}
    {first second : Attempt} {write : SpiWrite} (made : write ∈ triggerWrites first second)
    (denied : TriggerDenied ioErrorFromErrno write) :
    ¬(first.AuthRecordFailure ∧ second.AuthRecordFailure) := by
  rintro ⟨firstFailure, secondFailure⟩
  have written : write = .written := by
    simp only [triggerWrites, List.mem_cons] at made
    rcases made with rfl | later
    · exact firstFailure.triggered
    · split at later
      · rw [List.mem_singleton.mp later]
        exact secondFailure.triggered
      · cases later
  obtain ⟨error, failed, -⟩ := denied
  rw [written, spiWrite_written] at failed
  cases failed

/-- Over every open the repair is bounded and the key it writes is the right one; it is justified
by two refused handshakes unless the write of a trigger fails with `EPERM` or `EACCES`. -/
theorem psk_repair_is_justified (ioErrorFromErrno : Int → IoErrorCode) (device : PskSession)
    (calls : List PskSession.Call) :
    ((RepairContract (device.run ioErrorFromErrno calls).log ∧
      ∀ maxAttempts rounds imageBaseRefreshed primeT0,
        ((device.run ioErrorFromErrno calls).activateWithAttempts ioErrorFromErrno maxAttempts
          rounds imageBaseRefreshed primeT0).2.log.length ≤
          (device.run ioErrorFromErrno calls).log.length + 2 * max maxAttempts 1) ↔
      TriggersPermitted ioErrorFromErrno (device.run ioErrorFromErrno calls).log) := by
  have bounded := (device.run_invariant ioErrorFromErrno calls).bounded
  constructor
  · rintro ⟨contract, -⟩ record listed handshake made write tried denied
    have result := (bounded.sound record listed).result handshake made
    apply not_authRecordFailure_of_triggerDenied tried denied
    apply contract.genuine record listed handshake made
    rw [Handshake.Denied, result]
    exact (tlsHandshake_denied_iff _ _ _).mpr (.inl ⟨write, tried, denied⟩)
  · intro permitted
    refine ⟨?_, fun _ _ _ _ => PskSession.activateWithAttempts_length _ _ _ _ _⟩
    refine
      { authorized := fun record listed => (bounded.sound record listed).authorized
        once := bounded.once
        justified := bounded.justified
        genuine := ?_
        restores := fun record listed => (bounded.sound record listed).restores
        noHandshake := fun record listed => (bounded.sound record listed).noHandshake }
    intro record listed handshake made denied
    rw [Handshake.Denied, (bounded.sound record listed).result handshake made,
      tlsHandshake_denied_iff] at denied
    rcases denied with ⟨write, tried, denied⟩ | ⟨-, both⟩
    · exact (permitted record listed handshake made write tried denied).elim
    · exact both

/-- GLib on the numbers of `EPERM` and `EACCES`, and on any other. -/
def errnoCode (errno : Int) : IoErrorCode :=
  if errno = 1 ∨ errno = 13 then .permissionDenied else .failed

/-- A sensor whose SPI write fails with `EACCES`, on a machine with `random` and a state file. -/
def unpowered : Activation where
  bootProbe := .ok ()
  initSequence := .ok ()
  pskHex := none
  provisionPsk := some [0x72, 0x61, 0x6e, 0x64, 0x6f, 0x6d]
  stateFile := some (List.replicate 64 0x30 ++ [0x0a])
  randBytes := none
  provision := .verified
  recovered := none
  tlsInit := .ok ()
  attempts := fun _ => (⟨.done, .header (-1) 13, [], false, .ssl, []⟩, ⟨.done, .written, [], false,
    .ssl, []⟩)
  postTlsD4 := .ok ()
  listener := .ok ()
  primeT0 := .ok ()

def unpoweredCall : PskSession.Call :=
  .activate 2 (fun _ => ⟨none, unpowered, none, none⟩) false (.ok ())

def closedDevice : PskSession := ⟨false, false, false, false, []⟩

/-- After the denied trigger the next activation writes the PSK, though no handshake was made. -/
theorem denied_trigger_authorizes_repair :
    (∃ record ∈ (closedDevice.run errnoCode [unpoweredCall]).log, record.IsRepair) ∧
      ¬RepairContract (closedDevice.run errnoCode [unpoweredCall]).log := by
  constructor
  · have repaired : (closedDevice.run errnoCode [unpoweredCall]).log.any
        (fun record => decide record.IsRepair) = true := by decide +kernel
    simpa using repaired
  · intro contract
    have denied : (closedDevice.run errnoCode [unpoweredCall]).log.any (fun record =>
        record.handshake.any fun handshake => handshake.first.trigger = .header (-1) 13 &&
          decide (handshake.result =
            .error ⟨.permissionDenied, "gdix51c0: write header: -1/4"⟩)) = true := by
      decide +kernel
    obtain ⟨record, listed, found⟩ := List.any_eq_true.mp denied
    obtain ⟨handshake, made, found⟩ := (Option.any_eq_true _ _).mp found
    simp only [Bool.and_eq_true, decide_eq_true_eq] at found
    obtain ⟨unwritten, result⟩ := found
    have failure := (contract.genuine record listed handshake made ⟨_, result, rfl⟩).1
    cases unwritten.symm.trans failure.triggered

end GoodixSpi.Driver
