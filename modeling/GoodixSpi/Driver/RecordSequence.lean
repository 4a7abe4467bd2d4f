import GoodixSpi.Driver.ImageCapture

/-! The records handed to TLS are the first ones the sensor sent as long as none is lost. The
first loss ends that: whatever is handed over afterwards is out of sequence and is refused. -/

namespace GoodixSpi.Driver

open Reachability (Reaches run)

namespace ImageSession

/-- The framing checks of the capture. -/
def Framed (record : TlsRecord) : Prop :=
  5 ≤ record.data.length ∧ tlsRecordHeaderOk record.data = true ∧ record.data.headD 0 = appData

/-- Nothing is sent or handed over, and a capture that ends fails. -/
structure Still (before after : ImageSession) : Prop where
  sent : after.sent = before.sent
  tls : after.tls = before.tls
  results : after.results = before.results ∨
    ∃ error, after.results = before.results ++ [.error error]

variable (self : ImageSession)

/-- The records that were sent and have not left the listener's queue. -/
def pending : List TlsRecord := self.listener.queues appData ++ self.wire

/-- The numbers of the records handed to TLS. -/
def handed : List Nat := self.tls.handed.map TlsRecord.number

/-- What was handed to TLS is the first, the second, the third record and so on. -/
def InSequence : Prop := self.handed = List.range self.handed.length

/-- The step loses no record: a drain finds the queue empty, an arrival finds room in it, and
what a wait takes passes the framing checks. -/
def Keeps : ImageStep → Prop
  | .drain => self.listener.queues appData = []
  | .receive => (self.listener.queues appData).length < listenerQueueCap
  | .take => ∀ record rest, self.listener.queues appData = record :: rest → Framed record
  | _ => True

variable {self} {after : ImageSession} {ssl : OpenSsl}

/-- What a step does to the records. -/
inductive Moves (ssl : OpenSsl) (self after : ImageSession) : Prop
  | still (still : self.Still after) (pending : after.pending = self.pending)
  | sends (record : TlsRecord) (number : record.number = self.sent)
      (sent : after.sent = self.sent + 1) (tls : after.tls = self.tls)
      (pending : after.pending = self.pending ++ [record]) (results : after.results = self.results)
  | hands (record : TlsRecord) (framed : Framed record) (sent : after.sent = self.sent)
      (tls : after.tls = (self.tls.openImage ssl record).2)
      (pending : self.pending = record :: after.pending)
      (results : after.results = self.results ++ [(self.tls.openImage ssl record).1])

/-- The step loses records from the front. -/
def Loses (self after : ImageSession) : Prop :=
  self.Still after ∧ ∃ first lost, self.pending = first :: lost ++ after.pending

/-! ### What a capture makes of a record -/

lemma openImage_of_not_framed (ssl : OpenSsl) (tls : Tls) {record : TlsRecord}
    (bad : ¬ Framed record) : ∃ error, tls.openImage ssl record = (.error error, tls) := by
  rw [Tls.openImage]
  split
  · exact ⟨_, rfl⟩
  split
  · exact ⟨_, rfl⟩
  split
  · exact ⟨_, rfl⟩
  next long ok type =>
  rw [Bool.not_eq_false] at ok
  exact absurd ⟨Nat.le_of_not_lt long, ok, not_not.mp type⟩ bad

/-- A record that passes the checks is handed over; TLS counts it when its turn has come. -/
lemma openImage_of_framed (ssl : OpenSsl) (tls : Tls) {record : TlsRecord}
    (framed : Framed record) :
    (tls.openImage ssl record).2.handed = tls.handed ++ [record] ∧
      ((record.number = tls.records ∧
          (tls.openImage ssl record).2.records = tls.records + 1) ∨
        (tls.openImage ssl record).2.records = tls.records ∧
          ∃ error, (tls.openImage ssl record).1 = .error error) := by
  obtain ⟨long, ok, type⟩ := framed
  rw [Tls.openImage, if_neg (Nat.not_lt_of_le long), if_neg (by rw [ok]; decide),
    if_neg (not_not.mpr type), Tls.decryptRecord, if_pos ok]
  rcases reads : ssl.read tls.records record with text | plain
  · exact ⟨rfl, .inr ⟨rfl, _, rfl⟩⟩
  · have turn := ssl.inTurn _ _ _ reads
    dsimp only
    split
    · exact ⟨rfl, .inl ⟨turn, rfl⟩⟩
    · exact ⟨rfl, .inl ⟨turn, rfl⟩⟩

/-! ### What a step does -/

lemma still_finish (error : DriverError) : self.Still (self.finish (.error error)) :=
  ⟨rfl, rfl, .inr ⟨error, rfl⟩⟩

/-- The head of the queue is the first of the pending records. -/
lemma take_eq_some (takes : self.take ssl = some after) :
    ∃ record rest listener, self.listener.queues appData = record :: rest ∧
      self.pending = record :: after.pending ∧
      after = { self with listener, tls := (self.tls.openImage ssl record).2 }.finish
        (self.tls.openImage ssl record).1 := by
  obtain ⟨⟨record, listener⟩, popped, same⟩ := Option.bind_eq_some_iff.mp takes
  cases same
  have held := (Listener.popHead_eq_some popped).1
  exact ⟨record, listener.queues appData, listener, held, by rw [pending, held]; rfl, rfl⟩

lemma timeOut_moves (attempt : Nat) : Moves ssl self (self.timeOut attempt) := by
  rw [timeOut]
  split
  · exact .still ⟨rfl, rfl, .inl rfl⟩ rfl
  · exact .still (still_finish _) rfl

lemma step_moves {action : ImageStep} (keeps : self.Keeps action)
    (succeeds : self.step ssl action = some after) : Moves ssl self after := by
  cases action with
  | send data =>
    obtain ⟨-, same⟩ := Option.ite_none_right_eq_some.mp succeeds
    cases same
    exact .sends ⟨self.sent, data⟩ rfl rfl rfl (List.append_assoc ..).symm rfl
  | receive =>
    rcases sent : self.wire with - | ⟨record, rest⟩
    all_goals
      simp only [ImageSession.step, sent] at succeeds
      cases succeeds
    refine .still ⟨rfl, rfl, .inl rfl⟩ ?_
    rw [pending, pending, sent, Listener.queues_enqueueLocked, DropOldest.push_of_lt keeps,
      List.append_assoc]
    rfl
  | stop =>
    cases succeeds
    exact .still ⟨rfl, rfl, .inl rfl⟩ rfl
  | capture =>
    obtain ⟨-, same⟩ := Option.ite_none_right_eq_some.mp succeeds
    cases same
    exact .still ⟨rfl, rfl, .inl rfl⟩ rfl
  | drain =>
    rw [ImageSession.step] at succeeds
    split at succeeds
    · cases succeeds
      refine .still ⟨rfl, rfl, .inl rfl⟩ ?_
      rw [pending, pending, Listener.queues_drainCmd,
        show self.listener.queues appData = [] from keeps]
    · cases succeeds
  | setmode failure =>
    rw [ImageSession.step] at succeeds
    split at succeeds
    · cases failure with
      | none =>
        cases succeeds
        exact .still ⟨rfl, rfl, .inl rfl⟩ rfl
      | some error =>
        cases succeeds
        exact .still (still_finish error) rfl
    · cases succeeds
  | take =>
    rw [ImageSession.step] at succeeds
    split at succeeds
    · obtain ⟨record, rest, listener, held, first, rfl⟩ := take_eq_some succeeds
      exact .hands record (keeps record rest held) rfl rfl first rfl
    · cases succeeds
  | timeOut =>
    rw [ImageSession.step] at succeeds
    split at succeeds
    · obtain ⟨-, same⟩ := Option.ite_none_right_eq_some.mp succeeds
      cases same
      exact timeOut_moves _
    · cases succeeds

lemma step_loses {action : ImageStep} (lossy : ¬ self.Keeps action)
    (succeeds : self.step ssl action = some after) : Loses self after := by
  cases action with
  | drain =>
    rw [ImageSession.step] at succeeds
    split at succeeds
    · cases succeeds
      obtain ⟨first, lost, held⟩ := List.exists_cons_of_ne_nil lossy
      refine ⟨⟨rfl, rfl, .inl rfl⟩, first, lost, ?_⟩
      rw [pending, pending, Listener.queues_drainCmd, held]
      rfl
    · cases succeeds
  | receive =>
    rcases sent : self.wire with - | ⟨record, rest⟩
    all_goals
      simp only [ImageSession.step, sent] at succeeds
      cases succeeds
    have full : listenerQueueCap ≤ (self.listener.queues appData).length := Nat.le_of_not_lt lossy
    rcases held : self.listener.queues appData with - | ⟨first, queued⟩
    · rw [held] at full
      exact absurd full (by decide)
    · refine ⟨⟨rfl, rfl, .inl rfl⟩, first, [], ?_⟩
      rw [pending, pending, sent, Listener.queues_enqueueLocked, DropOldest.push, if_pos full, held,
        List.tail_cons, List.append_assoc]
      rfl
  | take =>
    rw [ImageSession.step] at succeeds
    split at succeeds
    · obtain ⟨record, rest, listener, held, first, rfl⟩ := take_eq_some succeeds
      have bad : ¬ Framed record := by
        intro framed
        refine lossy fun other rest' held' => ?_
        rw [held] at held'
        cases held'
        exact framed
      obtain ⟨error, opened⟩ := openImage_of_not_framed ssl self.tls bad
      refine ⟨⟨rfl, ?_, .inr ⟨error, ?_⟩⟩, record, [], first⟩
      · show (self.tls.openImage ssl record).2 = self.tls
        rw [opened]
      · show self.results ++ [(self.tls.openImage ssl record).1] = _
        rw [opened]
    · cases succeeds
  | send | stop | capture | setmode | timeOut => exact absurd trivial lossy

/-! ### Runs that lose nothing -/

/-- Every record was handed over or is pending, in order, and TLS read no more than it was
handed. -/
structure Unbroken (e : ImageSession) : Prop where
  all : e.handed ++ e.pending.map TlsRecord.number = List.range e.sent
  records : e.tls.records ≤ e.handed.length

lemma unbroken_start : start.Unbroken := ⟨rfl, Nat.le_refl 0⟩

lemma Unbroken.inSequence (h : self.Unbroken) : self.InSequence := by
  have before : self.handed <+: List.range self.sent := ⟨_, h.all⟩
  have all := List.prefix_iff_eq_take.mp before
  rw [InSequence]
  conv_lhs => rw [all, List.take_range]
  congr 1
  have short := before.length_le
  rw [List.length_range] at short
  exact Nat.min_eq_left short

lemma handed_opened {record : TlsRecord} (framed : Framed record)
    (tls : after.tls = (self.tls.openImage ssl record).2) :
    after.handed = self.handed ++ [record.number] := by
  rw [handed, tls, (openImage_of_framed ssl self.tls framed).1, List.map_append]
  rfl

lemma Unbroken.moves (h : self.Unbroken) (moves : Moves ssl self after) : after.Unbroken := by
  cases moves with
  | still still pending =>
    constructor
    · rw [handed, still.tls, pending, still.sent]
      exact h.all
    · rw [handed, still.tls]
      exact h.records
  | sends record number sent tls pending results =>
    constructor
    · rw [handed, tls, pending, sent, List.map_append, ← List.append_assoc, List.range_succ]
      exact congrArg₂ (· ++ ·) h.all (congrArg (fun n => [n]) number)
    · rw [handed, tls]
      exact h.records
  | hands record framed sent tls pending results =>
    have handed := handed_opened framed tls
    constructor
    · rw [handed, sent, ← h.all, pending, List.append_assoc]
      rfl
    · rw [handed, tls, List.length_append, List.length_singleton]
      have records := h.records
      rcases (openImage_of_framed ssl self.tls framed).2 with
        ⟨-, more⟩ | ⟨same, -⟩
      · rw [more]
        exact Nat.succ_le_succ records
      · rw [same]
        exact Nat.le_succ_of_le records

/-! ### After the first loss -/

/-- The record numbered `gap` is lost for TLS: only later ones are left, and no image has been
opened since `images`. -/
structure Broken (gap : Nat) (images : List (Except DriverError (List UInt8)))
    (e : ImageSession) : Prop where
  handed : ∃ tail, e.handed = List.range gap ++ tail ∧ ∀ number ∈ tail, gap < number
  pending : ∀ record ∈ e.pending, gap < record.number
  sent : gap < e.sent
  records : e.tls.records ≤ gap
  results : ∃ failures, e.results = images ++ failures ∧
    ∀ result ∈ failures, ∃ error, result = .error error

/-- Whatever is pending after a loss comes later than the record that was next. -/
lemma Unbroken.loses (h : self.Unbroken) (loses : Loses self after) :
    after.Broken self.handed.length self.results := by
  obtain ⟨still, first, lost, pending⟩ := loses
  have sorted : (self.handed ++ self.pending.map TlsRecord.number).Pairwise (· < ·) :=
    h.all ▸ List.pairwise_lt_range
  obtain ⟨-, later, across⟩ := List.pairwise_append.mp sorted
  rw [pending] at later across
  have next : self.handed.length ≤ first.number := by
    rcases count : self.handed.length with - | last
    · exact Nat.zero_le _
    · have listed : last ∈ self.handed := by
        rw [h.inSequence, count]
        exact List.self_mem_range_succ
      exact across last listed first.number List.mem_cons_self
  have inside : first.number < self.sent := by
    rw [← List.mem_range, ← h.all, pending]
    exact List.mem_append_right _ List.mem_cons_self
  refine ⟨⟨[], ?_, nofun⟩, ?_, ?_, ?_, ?_⟩
  · rw [List.append_nil, ← h.inSequence, ImageSession.handed, ImageSession.handed, still.tls]
  · intro record listed
    refine Nat.lt_of_le_of_lt next ((List.pairwise_cons.mp later).1 _ ?_)
    exact List.mem_map_of_mem (List.mem_append_right lost listed)
  · rw [still.sent]
    exact Nat.lt_of_le_of_lt next inside
  · rw [still.tls]
    exact h.records
  · rcases still.results with same | ⟨error, failed⟩
    · exact ⟨[], by rw [same, List.append_nil], nofun⟩
    · exact ⟨[.error error], failed, fun result listed => ⟨error, List.mem_singleton.mp listed⟩⟩

variable {gap : Nat} {images : List (Except DriverError (List UInt8))}

lemma Broken.still (h : self.Broken gap images) (still : self.Still after)
    (pending : ∀ record ∈ after.pending, record ∈ self.pending) : after.Broken gap images := by
  obtain ⟨failures, results, errors⟩ := h.results
  refine ⟨?_, fun record listed => h.pending record (pending record listed), ?_, ?_, ?_⟩
  · rw [ImageSession.handed, still.tls]
    exact h.handed
  · rw [still.sent]
    exact h.sent
  · rw [still.tls]
    exact h.records
  · rcases still.results with same | ⟨error, failed⟩
    · exact ⟨failures, same.trans results, errors⟩
    · refine ⟨failures ++ [.error error], by rw [failed, results, List.append_assoc], ?_⟩
      intro result listed
      rcases List.mem_append.mp listed with old | new
      · exact errors result old
      · exact ⟨error, List.mem_singleton.mp new⟩

/-- A record that comes after the gap is handed over out of its turn and refused. -/
lemma Broken.moves (h : self.Broken gap images) (moves : Moves ssl self after) :
    after.Broken gap images := by
  cases moves with
  | still still pending => exact h.still still fun record listed => pending ▸ listed
  | sends record number sent tls pending results =>
    refine ⟨?_, ?_, ?_, tls ▸ h.records, results ▸ h.results⟩
    · rw [ImageSession.handed, tls]
      exact h.handed
    · intro other listed
      rw [pending] at listed
      rcases List.mem_append.mp listed with old | new
      · exact h.pending other old
      · rw [List.mem_singleton.mp new, number]
        exact h.sent
    · rw [sent]
      exact Nat.lt_succ_of_lt h.sent
  | hands record framed sent tls pending results =>
    obtain ⟨tail, handed, later⟩ := h.handed
    have late : gap < record.number := h.pending record (pending ▸ List.mem_cons_self)
    have refused : (self.tls.openImage ssl record).2.records = self.tls.records ∧
        ∃ error, (self.tls.openImage ssl record).1 = .error error := by
      rcases (openImage_of_framed ssl self.tls framed).2 with
        ⟨turn, -⟩ | refused
      · exact absurd (turn ▸ h.records) (Nat.not_le_of_lt late)
      · exact refused
    obtain ⟨records, error, failed⟩ := refused
    refine ⟨⟨tail ++ [record.number], ?_, ?_⟩, ?_, sent ▸ h.sent, ?_, ?_⟩
    · rw [handed_opened framed tls, handed, List.append_assoc]
    · intro number listed
      rcases List.mem_append.mp listed with old | new
      · exact later number old
      · rw [List.mem_singleton.mp new]
        exact late
    · intro other listed
      exact h.pending other (pending ▸ List.mem_cons_of_mem record listed)
    · rw [tls, records]
      exact h.records
    · obtain ⟨failures, before, errors⟩ := h.results
      refine ⟨failures ++ [.error error], ?_, ?_⟩
      · rw [results, failed, before, List.append_assoc]
      · intro result listed
        rcases List.mem_append.mp listed with old | new
        · exact errors result old
        · exact ⟨error, List.mem_singleton.mp new⟩

lemma Broken.step (h : self.Broken gap images) {action : ImageStep}
    (succeeds : self.step ssl action = some after) : after.Broken gap images := by
  by_cases keeps : self.Keeps action
  · exact h.moves (step_moves keeps succeeds)
  · obtain ⟨still, first, lost, pending⟩ := step_loses keeps succeeds
    refine h.still still fun record listed => ?_
    rw [pending]
    exact List.mem_append_right (first :: lost) listed

/-- With a gap the sequence is right only as long as nothing is handed over after it. -/
lemma Broken.inSequence_iff (h : self.Broken gap images) :
    self.InSequence ↔ self.handed = List.range gap := by
  obtain ⟨tail, handed, later⟩ := h.handed
  constructor
  · intro sequence
    rcases tail with - | ⟨number, rest⟩
    · rw [handed, List.append_nil]
    · rw [InSequence, handed, List.length_append, List.length_range, List.length_cons,
        List.range_add, List.append_cancel_left_eq, List.range_succ_eq_map,
        List.map_cons] at sequence
      have same : number = gap + 0 := (List.cons.inj sequence).1
      exact absurd (later number List.mem_cons_self) (same ▸ Nat.lt_irrefl _)
  · intro same
    rw [InSequence, same, List.length_range]

end ImageSession

/-! ### Main results -/

open ImageSession in
/-- In a run that loses no record TLS is handed the first, the second, the third record and so
on. From the first loss on it is so exactly as long as nothing more is handed over, and no
capture gives an image again. -/
theorem image_records_in_sequence (ssl : OpenSsl) :
    (∀ state, Reaches (ImageSession.step ssl) Keeps .start state → state.InSequence) ∧
    ∀ (before after later : ImageSession) (action : ImageStep),
      Reaches (ImageSession.step ssl) Keeps .start before → ¬ before.Keeps action →
      before.step ssl action = some after →
      Reaches (ImageSession.step ssl) (fun _ _ => True) after later →
      (later.InSequence ↔ later.handed = before.handed) ∧
        ∃ failures, later.results = before.results ++ failures ∧
          ∀ result ∈ failures, ∃ error, result = .error error := by
  have unbroken (state : ImageSession)
      (reached : Reaches (ImageSession.step ssl) Keeps .start state) : state.Unbroken :=
    reached.invariant Unbroken unbroken_start
      fun _ _ _ h keeps succeeds => h.moves (step_moves keeps succeeds)
  constructor
  · exact fun state reached => (unbroken state reached).inSequence
  · intro before after later action reached lossy succeeds continued
    have whole := unbroken before reached
    have broken : later.Broken before.handed.length before.results :=
      continued.invariant (Broken before.handed.length before.results)
        (whole.loses (step_loses lossy succeeds)) fun _ _ _ h _ succeeds => h.step succeeds
    refine ⟨?_, broken.results⟩
    rw [broken.inSequence_iff, ← whole.inSequence]

/-- A record accepted in its turn, whatever it holds. -/
def OpenSsl.byNumber : OpenSsl where
  read records record :=
    if record.number = records then .ok record.data else .error "bad record mac"
  inTurn records record plain read := by
    by_contra other
    rw [if_neg other] at read
    cases read

/-- The record of the first attempt comes after its time-out and is drained by the second. -/
def lateRecord : List ImageStep :=
  [.capture, .drain, .setmode none, .timeOut, .send [0x17, 3, 3, 0, 0], .receive, .drain,
   .setmode none, .send [0x17, 3, 3, 0, 0], .receive, .take]

theorem late_record_breaks_sequence :
    ¬ ∀ (ssl : OpenSsl) (state : ImageSession),
      Reaches (ImageSession.step ssl) (fun _ _ => True) .start state → state.InSequence := by
  intro sequence
  obtain ⟨state, ran, handed⟩ : ∃ state,
      run (ImageSession.step .byNumber) .start lateRecord = some state ∧ state.handed = [1] :=
    ⟨_, rfl, rfl⟩
  have reached := Reaches.start.run (fun _ _ _ => trivial) ran
  have ordered := sequence .byNumber state reached
  rw [ImageSession.InSequence, handed] at ordered
  exact absurd ordered (by decide)

end GoodixSpi.Driver
