import GoodixSpi.Driver.Transport

/-! Whose ACK and whose response a command succeeds on. What a call takes is its own as long as
nothing of an earlier call arrives between the drain of a queue and the wait on it. -/

namespace GoodixSpi.Driver

namespace Transport

variable (self : Transport)

/-- The packet answers a write of the call. -/
def CausedBy (packet : Packet) (call : Nat) : Prop :=
  (self.writes[packet.cause]?).map Write.call = some call

/-- The queues that a call has drained and is still to wait on. -/
def Call.guards (call : Call) : List UInt8 :=
  match call.point with
  | .drainResponse _ => []
  | .drainAck _ | .awaitResponse _ _ => call.request.responseCommand.toList
  | .write _ _ | .awaitAck _ _ => pktRead :: call.request.responseCommand.toList

/-- Nothing that an earlier call caused reaches a queue between the drain and the wait of the
call that is on. -/
def Timely (self : Transport) (action : TransportStep) : Prop :=
  action = .receive → ∀ call packet rest, self.current = some call → self.wire = packet :: rest →
    packet.kind ∈ Call.guards call → self.CausedBy packet call.number

/-- Every packet was taken by the call that caused it. -/
structure Attributed (e : Transport) : Prop where
  takers : ∀ taker ∈ e.takers, e.CausedBy taker.1 taker.2
  returned : ∀ call ∈ e.returned, ∀ ack response, call.success = some (ack, response) →
    e.CausedBy ack call.number ∧ ∀ packet, response = some packet → e.CausedBy packet call.number

/-- What a run of timely steps keeps. -/
structure Guarded (e : Transport) : Prop where
  attributed : e.Attributed
  fresh : ∀ call, e.current = some call → ∀ cmd ∈ Call.guards call,
    ∀ packet ∈ e.listener.queues cmd, e.CausedBy packet call.number
  ack : ∀ call round ack, e.current = some call → call.point = .awaitResponse round ack →
    e.CausedBy ack call.number

variable {self} {after : Transport}

/-- A write that was made keeps its call. -/
lemma CausedBy.grows {packet : Packet} {number : Nat} (h : self.CausedBy packet number)
    {more : List Write} (writes : after.writes = self.writes ++ more) :
    after.CausedBy packet number := by
  rw [CausedBy, Option.map_eq_some_iff] at h
  obtain ⟨write, found, call⟩ := h
  obtain ⟨inside, -⟩ := List.getElem?_eq_some_iff.mp found
  rw [CausedBy, writes, List.getElem?_append_left inside, found, Option.map_some, call]

lemma Attributed.grows (h : self.Attributed) {more : List Write}
    (writes : after.writes = self.writes ++ more) (takers : after.takers = self.takers)
    (returned : after.returned = self.returned) : after.Attributed where
  takers taker listed := by
    rw [takers] at listed
    exact (h.takers taker listed).grows writes
  returned call listed ack response success := by
    rw [returned] at listed
    obtain ⟨own, responds⟩ := h.returned call listed ack response success
    exact ⟨own.grows writes, fun packet same => (responds packet same).grows writes⟩

/-- Steps beside the call that is on: what they add to a queue it guards is its own. -/
lemma Guarded.beside (h : self.Guarded) (writes : after.writes = self.writes)
    (takers : after.takers = self.takers) (returned : after.returned = self.returned)
    (current : after.current = self.current)
    (queues : ∀ call, self.current = some call → ∀ cmd ∈ Call.guards call,
      ∀ packet ∈ after.listener.queues cmd,
        packet ∈ self.listener.queues cmd ∨ self.CausedBy packet call.number) : after.Guarded := by
  have grown : after.writes = self.writes ++ [] := by rw [writes, List.append_nil]
  refine ⟨h.attributed.grows grown takers returned, ?_, ?_⟩
  · intro call on cmd guarded packet listed
    rw [current] at on
    rcases queues call on cmd guarded packet listed with old | own
    · exact (h.fresh call on cmd guarded packet old).grows grown
    · exact own.grows grown
  · intro call round ack on point
    rw [current] at on
    exact (h.ack call round ack on point).grows grown

/-- A call moves on to guard queues it guards already, or empty ones. -/
lemma Guarded.moveTo (h : self.Guarded) {call : Call} (on : self.current = some call)
    {point : Point} (guards : ∀ cmd ∈ Call.guards { call with point },
      cmd ∈ Call.guards call ∨ self.listener.queues cmd = [])
    (ack : ∀ round ack, point = .awaitResponse round ack → self.CausedBy ack call.number) :
    (self.moveTo call point).Guarded := by
  refine ⟨h.attributed.grows (List.append_nil _).symm rfl rfl, ?_, ?_⟩
  · intro moved on' cmd guarded packet listed
    cases on'
    rcases guards cmd guarded with old | empty
    · exact h.fresh call on cmd old packet listed
    · exact absurd listed (by
        rw [show (self.moveTo call point).listener = self.listener from rfl, empty]
        exact List.not_mem_nil)
  · intro moved round own on' same
    cases on'
    exact ack round own same

lemma Guarded.finish (h : self.Guarded) {call : Call}
    {success : Option (Packet × Option Packet)}
    (own : ∀ ack response, success = some (ack, response) → self.CausedBy ack call.number ∧
      ∀ packet, response = some packet → self.CausedBy packet call.number) :
    (self.finish call success).Guarded := by
  refine ⟨⟨h.attributed.takers, ?_⟩, ?_, ?_⟩
  · intro other listed ack response succeeded
    rcases List.mem_append.mp listed with old | new
    · exact h.attributed.returned other old ack response succeeded
    · rw [List.mem_singleton.mp new] at succeeded ⊢
      exact own ack response succeeded
  · intro other on
    cases on
  · intro other round ack on
    cases on

/-- Draining empties one queue and leaves the guarded ones as fresh as they were. -/
lemma Guarded.drained (h : self.Guarded) (cmd : UInt8) :
    ({ self with listener := self.listener.drainCmd cmd }).Guarded :=
  h.beside rfl rfl rfl rfl fun _ _ _ _ _ listed => .inl (Listener.mem_drainCmd listed).1

/-- What a call takes from a queue it guards is its own. -/
lemma Guarded.takes (h : self.Guarded) {call : Call} (on : self.current = some call) {cmd : UInt8}
    (guarded : cmd ∈ Call.guards call) {packet : Packet} {listener : Listener Packet}
    (popped : self.listener.popHead cmd = some (packet, listener)) :
    self.CausedBy packet call.number ∧
      ({ self with listener, takers := self.takers ++ [(packet, call.number)] }).Guarded := by
  have own : self.CausedBy packet call.number := by
    refine h.fresh call on cmd guarded packet ?_
    rw [(Listener.popHead_eq_some popped).1]
    exact List.mem_cons_self
  refine ⟨own, ⟨⟨?_, h.attributed.returned⟩, ?_, h.ack⟩⟩
  · intro taker listed
    rcases List.mem_append.mp listed with old | new
    · exact h.attributed.takers taker old
    · rw [List.mem_singleton.mp new]
      exact own
  · intro other on' cmd' guarded' packet' listed
    exact h.fresh other on' cmd' guarded' packet' (Listener.mem_popHead popped listed)

/-! ### What a step does -/

/-- A step as the call that is on and the queues see it. -/
inductive Moves (self : Transport) : TransportStep → Transport → Prop
  | beside {action : TransportStep} {after : Transport} (writes : after.writes = self.writes)
      (listener : after.listener = self.listener) (takers : after.takers = self.takers)
      (current : after.current = self.current) (returned : after.returned = self.returned) :
      Moves self action after
  | receive {packet : Packet} {rest : List Packet} (sent : self.wire = packet :: rest) :
      Moves self .receive { self with
        wire := rest, listener := self.listener.enqueueLocked packet.kind packet }
  | enter {action : TransportStep} (request : Request) : Moves self action { self with
      calls := self.calls + 1
      current := some ⟨self.calls, request,
        if request.responseCommand.isSome then .drainResponse 1 else .drainAck 1⟩ }
  | drain {action : TransportStep} {call : Call} {cmd : UInt8} {point : Point}
      (on : self.current = some call)
      (guards : ∀ other ∈ Call.guards { call with point }, other ∈ Call.guards call ∨ other = cmd)
      (ack : ∀ round ack, point ≠ .awaitResponse round ack) :
      Moves self action ({ self with listener := self.listener.drainCmd cmd }.moveTo call point)
  | write {action : TransportStep} {number : Nat} {request : Request} {round attempt : Nat}
      (on : self.current = some ⟨number, request, .write round attempt⟩) :
      Moves self action { self with
        writes := self.writes ++ [⟨request.payload, number⟩]
        current := some ⟨number, request, .awaitAck round attempt⟩ }
  | fail {action : TransportStep} (call : Call) : Moves self action (self.finish call none)
  | again {action : TransportStep} {call : Call} {point : Point} (on : self.current = some call)
      (guards : ∀ other ∈ Call.guards { call with point }, other ∈ Call.guards call)
      (ack : ∀ round ack, point ≠ .awaitResponse round ack) :
      Moves self action (self.moveTo call point)
  | takeAck {action : TransportStep} {call : Call} {packet : Packet} {listener : Listener Packet}
      {round attempt : Nat} (on : self.current = some call)
      (point : call.point = .awaitAck round attempt)
      (popped : self.listener.popHead pktRead = some (packet, listener)) :
      Moves self action ({ self with
        listener, takers := self.takers ++ [(packet, call.number)] }.moveTo call
          (.awaitResponse round packet))
  | succeedAck {action : TransportStep} {call : Call} {packet : Packet}
      {listener : Listener Packet} {round attempt : Nat} (on : self.current = some call)
      (point : call.point = .awaitAck round attempt)
      (silent : call.request.responseCommand = none)
      (popped : self.listener.popHead pktRead = some (packet, listener)) :
      Moves self action ({ self with
        listener, takers := self.takers ++ [(packet, call.number)] }.finish call
          (some (packet, none)))
  | succeed {action : TransportStep} {call : Call} {packet ack : Packet} {cmd : UInt8}
      {listener : Listener Packet} {round : Nat} (on : self.current = some call)
      (point : call.point = .awaitResponse round ack)
      (responds : call.request.responseCommand = some cmd)
      (popped : self.listener.popHead cmd = some (packet, listener)) :
      Moves self action ({ self with
        listener, takers := self.takers ++ [(packet, call.number)] }.finish call
          (some (ack, some packet)))

lemma drain_moves {call : Call} (on : self.current = some call)
    (drains : self.drain call = some after) : self.Moves .drain after := by
  obtain ⟨number, request, point⟩ := call
  cases point with
  | drainResponse round =>
    obtain ⟨cmd, responds, rfl⟩ := Option.map_eq_some_iff.mp drains
    refine .drain on ?_ fun _ _ same => nomatch same
    intro other guarded
    rw [show Call.guards _ = request.responseCommand.toList from rfl,
      show request.responseCommand = some cmd from responds] at guarded
    exact .inr (List.mem_singleton.mp guarded)
  | drainAck round =>
    cases drains
    refine .drain on ?_ fun _ _ same => nomatch same
    intro other guarded
    rcases List.mem_cons.mp guarded with same | response
    · exact .inr same
    · exact .inl response
  | write | awaitAck | awaitResponse => cases drains

lemma take_moves {call : Call} (on : self.current = some call)
    (takes : self.take call = some after) : self.Moves .take after := by
  obtain ⟨number, request, point⟩ := call
  obtain ⟨cmd, awaited, pops⟩ := Option.bind_eq_some_iff.mp takes
  clear takes
  obtain ⟨⟨packet, listener⟩, popped, takes⟩ := Option.bind_eq_some_iff.mp pops
  clear pops
  cases point with
  | awaitAck round attempt =>
    cases awaited
    dsimp only at takes
    split at takes
    · cases takes
      exact .takeAck on rfl popped
    · next silent =>
      cases takes
      exact .succeedAck on rfl (Option.not_isSome_iff_eq_none.mp silent) popped
  | awaitResponse round ack =>
    cases takes
    exact .succeed on rfl awaited popped
  | drainResponse | drainAck | write => cases awaited

lemma timeOut_moves {call : Call} (on : self.current = some call)
    (ends : self.timeOut call = some after) : self.Moves .timeOut after := by
  obtain ⟨number, request, point⟩ := call
  obtain ⟨cmd, awaited, waits⟩ := Option.bind_eq_some_iff.mp ends
  clear ends
  split at waits
  · cases waits
  split at waits
  · cases waits
    exact .fail _
  cases point with
  | awaitAck round attempt =>
    rw [← show (if attempt = 1 then _ else _) = after from Option.some.inj waits]
    split
    · exact .again on (fun _ => id) fun _ _ same => nomatch same
    · exact .fail _
  | awaitResponse round ack =>
    rw [← show (if round = 1 then _ else _) = after from Option.some.inj waits]
    split
    · exact .again on (fun _ => nofun) fun _ _ same => nomatch same
    · exact .fail _
  | drainResponse | drainAck | write => cases awaited

/-- A step of the caller at a write. -/
lemma of_write {made : Nat → Request → Nat → Nat → Transport}
    (writes : (match self.current with
      | some ⟨number, request, .write round attempt⟩ => some (made number request round attempt)
      | _ => none) = some after) :
    ∃ number request round attempt,
      self.current = some ⟨number, request, .write round attempt⟩ ∧
        after = made number request round attempt := by
  split at writes
  · next number request round attempt on =>
    exact ⟨number, request, round, attempt, on, (Option.some.inj writes).symm⟩
  · cases writes

lemma step_moves {action : TransportStep} (succeeds : self.step action = some after) :
    self.Moves action after := by
  cases action with
  | acknowledge | respond =>
    obtain ⟨-, same⟩ := Option.ite_none_right_eq_some.mp succeeds
    cases same
    exact .beside rfl rfl rfl rfl rfl
  | receive =>
    rcases sent : self.wire with - | ⟨packet, rest⟩
    all_goals
      simp only [Transport.step, sent] at succeeds
      cases succeeds
    exact .receive sent
  | stop =>
    cases succeeds
    exact .beside rfl rfl rfl rfl rfl
  | call request =>
    rcases on : self.current with - | call
    all_goals
      simp only [Transport.step, on] at succeeds
      cases succeeds
    exact .enter request
  | drain =>
    obtain ⟨call, on, drains⟩ := Option.bind_eq_some_iff.mp succeeds
    exact drain_moves on drains
  | write =>
    obtain ⟨number, request, round, attempt, on, rfl⟩ := of_write succeeds
    exact .write on
  | writeFails =>
    obtain ⟨number, request, round, attempt, on, rfl⟩ := of_write succeeds
    exact .fail _
  | take =>
    obtain ⟨call, on, takes⟩ := Option.bind_eq_some_iff.mp succeeds
    exact take_moves on takes
  | timeOut =>
    obtain ⟨call, on, ends⟩ := Option.bind_eq_some_iff.mp succeeds
    exact timeOut_moves on ends

/-- A call enters with nothing drained. -/
lemma guards_entry (number : Nat) (request : Request) :
    Call.guards ⟨number, request,
      if request.responseCommand.isSome then .drainResponse 1 else .drainAck 1⟩ = [] := by
  rcases responds : request.responseCommand with - | cmd
  · simp [Call.guards, responds]
  · simp [Call.guards]

lemma entry_ne (request : Request) (round : Nat) (ack : Packet) :
    (if request.responseCommand.isSome then Point.drainResponse 1 else .drainAck 1) ≠
      .awaitResponse round ack := by
  split <;> exact nofun

lemma guards_awaitAck {call : Call} {round attempt : Nat}
    (stands : call.point = .awaitAck round attempt) :
    Call.guards call = pktRead :: call.request.responseCommand.toList := by
  rw [Call.guards, stands]

lemma guards_awaitResponse {call : Call} {round : Nat} {ack : Packet}
    (stands : call.point = .awaitResponse round ack) :
    Call.guards call = call.request.responseCommand.toList := by
  rw [Call.guards, stands]

lemma Guarded.entered (h : self.Guarded) (request : Request) :
    ({ self with
      calls := self.calls + 1
      current := some ⟨self.calls, request,
        if request.responseCommand.isSome then .drainResponse 1 else .drainAck 1⟩ } :
          Transport).Guarded := by
  refine ⟨h.attributed.grows (List.append_nil _).symm rfl rfl, ?_, ?_⟩
  · intro call on cmd guarded
    cases on
    rw [guards_entry] at guarded
    cases guarded
  · intro call round ack on point
    cases on
    exact absurd point (entry_ne request round ack)

/-- A write is the call's own, and it guards what it guarded. -/
lemma Guarded.written (h : self.Guarded) {number : Nat} {request : Request} {round attempt : Nat}
    (on : self.current = some ⟨number, request, .write round attempt⟩) :
    ({ self with
      writes := self.writes ++ [⟨request.payload, number⟩]
      current := some ⟨number, request, .awaitAck round attempt⟩ } : Transport).Guarded := by
  refine ⟨h.attributed.grows rfl rfl rfl, ?_, ?_⟩
  · intro call on' cmd guarded packet listed
    cases on'
    exact (h.fresh _ on cmd guarded packet listed).grows rfl
  · intro call round' ack on' point
    cases on'
    cases point

lemma guarded_start : start.Guarded where
  attributed := ⟨nofun, nofun⟩
  fresh := nofun
  ack := nofun

/-- Every timely step keeps what calls take their own. -/
lemma Guarded.step (h : self.Guarded) {action : TransportStep} (timely : self.Timely action)
    (succeeds : self.step action = some after) : after.Guarded := by
  cases step_moves succeeds with
  | beside writes listener takers current returned =>
    exact h.beside writes takers returned current fun _ _ _ _ _ listed => .inl (listener ▸ listed)
  | receive sent =>
    refine h.beside rfl rfl rfl rfl fun call on cmd guarded item listed => ?_
    rcases Listener.mem_enqueueLocked listed with queued | ⟨rfl, rfl⟩
    · exact .inl queued
    · exact .inr (timely rfl call _ _ on sent guarded)
  | enter request => exact h.entered request
  | drain on guards ack =>
    refine (h.drained _).moveTo on ?_ fun round own same => absurd same (ack round own)
    intro other guarded
    refine (guards other guarded).imp_right ?_
    rintro rfl
    exact Listener.queues_drainCmd other
  | write on => exact h.written on
  | fail call => exact h.finish nofun
  | again on guards ack =>
    exact h.moveTo on (fun other guarded => .inl (guards other guarded))
      fun round own same => absurd same (ack round own)
  | takeAck on point popped =>
    have guards := guards_awaitAck point
    obtain ⟨own, taken⟩ := h.takes on (guards ▸ List.mem_cons_self) popped
    refine taken.moveTo on (fun other guarded => .inl ?_) ?_
    · rw [guards]
      exact List.mem_cons_of_mem pktRead guarded
    · intro _ ack same
      cases same
      exact own
  | succeedAck on point silent popped =>
    obtain ⟨own, taken⟩ := h.takes on (guards_awaitAck point ▸ List.mem_cons_self) popped
    refine taken.finish fun ack response same => ?_
    cases same
    exact ⟨own, nofun⟩
  | succeed on point responds popped =>
    have guarded := guards_awaitResponse point ▸ Option.mem_toList.mpr responds
    obtain ⟨own, taken⟩ := h.takes on guarded popped
    refine taken.finish fun first response same => ?_
    cases same
    refine ⟨h.ack _ _ _ on point, fun packet same => ?_⟩
    cases same
    exact own

/-! ### What the listener hands out -/

/-- A packet is handed out at most once, in the order of arrival of its kind and to a wait for
its kind; a call that succeeds took an ACK and the response it asked for. -/
structure Delivers (e : Transport) : Prop where
  inOrder : e.listener.InOrder
  kinds : ∀ entry ∈ e.listener.received, entry.2.kind = entry.1
  handed : e.listener.delivered.map Prod.snd = e.takers.map Prod.fst
  ack : ∀ call round ack, e.current = some call → call.point = .awaitResponse round ack →
    ack.kind = pktRead
  returned : ∀ call ∈ e.returned, ∀ ack response, call.success = some (ack, response) →
    ack.kind = pktRead ∧ response.map Packet.kind = call.request.responseCommand

lemma Delivers.beside (h : self.Delivers) (listener : after.listener = self.listener)
    (takers : after.takers = self.takers) (current : after.current = self.current)
    (returned : after.returned = self.returned) : after.Delivers where
  inOrder := listener ▸ h.inOrder
  kinds := listener ▸ h.kinds
  handed := by
    rw [listener, takers]
    exact h.handed
  ack := current ▸ h.ack
  returned := returned ▸ h.returned

lemma Delivers.moveTo (h : self.Delivers) {call : Call} {point : Point}
    (ack : ∀ round ack, point = .awaitResponse round ack → ack.kind = pktRead) :
    (self.moveTo call point).Delivers := by
  refine ⟨h.inOrder, h.kinds, h.handed, ?_, h.returned⟩
  intro moved round own on same
  cases on
  exact ack round own same

lemma Delivers.finish (h : self.Delivers) {call : Call}
    {success : Option (Packet × Option Packet)}
    (kinds : ∀ ack response, success = some (ack, response) →
      ack.kind = pktRead ∧ response.map Packet.kind = call.request.responseCommand) :
    (self.finish call success).Delivers := by
  refine ⟨h.inOrder, h.kinds, h.handed, nofun, ?_⟩
  intro other listed ack response succeeded
  rcases List.mem_append.mp listed with old | new
  · exact h.returned other old ack response succeeded
  · rw [List.mem_singleton.mp new] at succeeded ⊢
    exact kinds ack response succeeded

lemma Delivers.drained (h : self.Delivers) (cmd : UInt8) :
    ({ self with listener := self.listener.drainCmd cmd }).Delivers :=
  ⟨h.inOrder.drainCmd cmd, h.kinds, h.handed, h.ack, h.returned⟩

lemma Delivers.takes (h : self.Delivers) (number : Nat) {cmd : UInt8} {packet : Packet}
    {listener : Listener Packet} (popped : self.listener.popHead cmd = some (packet, listener)) :
    packet.kind = cmd ∧
      ({ self with listener, takers := self.takers ++ [(packet, number)] }).Delivers := by
  obtain ⟨held, -, received, delivered⟩ := Listener.popHead_eq_some popped
  constructor
  · have queued : packet ∈ self.listener.queues cmd := held ▸ List.mem_cons_self
    have arrived := (h.inOrder cmd).subset (List.mem_append_right _ queued)
    exact h.kinds (cmd, packet) (Listener.mem_ofKind.mp arrived)
  · refine ⟨h.inOrder.popHead popped, received ▸ h.kinds, ?_, h.ack, h.returned⟩
    rw [delivered, List.map_append, List.map_append, h.handed]
    rfl

lemma delivers_start : start.Delivers where
  inOrder := Listener.inOrder_new
  kinds := nofun
  handed := rfl
  ack := nofun
  returned := nofun

lemma Delivers.step (h : self.Delivers) {action : TransportStep}
    (succeeds : self.step action = some after) : after.Delivers := by
  cases step_moves succeeds with
  | beside writes listener takers current returned =>
    exact h.beside listener takers current returned
  | receive sent =>
    refine ⟨h.inOrder.enqueueLocked _ _, ?_, h.handed, h.ack, h.returned⟩
    intro entry listed
    rcases List.mem_append.mp listed with old | new
    · exact h.kinds entry old
    · rw [List.mem_singleton.mp new]
  | enter request =>
    refine ⟨h.inOrder, h.kinds, h.handed, ?_, h.returned⟩
    intro call round ack on point
    cases on
    exact absurd point (entry_ne request round ack)
  | drain on guards ack =>
    exact (h.drained _).moveTo fun round own same => absurd same (ack round own)
  | write on =>
    refine ⟨h.inOrder, h.kinds, h.handed, ?_, h.returned⟩
    intro call round ack on point
    cases on
    cases point
  | fail call => exact h.finish nofun
  | again on guards ack => exact h.moveTo fun round own same => absurd same (ack round own)
  | takeAck on point popped =>
    obtain ⟨kind, taken⟩ := h.takes _ popped
    refine taken.moveTo fun _ ack same => ?_
    cases same
    exact kind
  | succeedAck on point silent popped =>
    obtain ⟨kind, taken⟩ := h.takes _ popped
    refine taken.finish fun ack response same => ?_
    cases same
    exact ⟨kind, silent.symm⟩
  | succeed on point responds popped =>
    obtain ⟨kind, taken⟩ := h.takes _ popped
    refine taken.finish fun first response same => ?_
    cases same
    refine ⟨h.ack _ _ _ on point, ?_⟩
    rw [responds, Option.map_some, kind]

/-- A packet of an earlier call that comes while a call waits on an empty queue is taken for its
own. -/
lemma untimely_taken {call : Call} {packet : Packet} {rest : List Packet}
    (on : self.current = some call)
    (awaits : Point.awaited call.request call.point = some packet.kind)
    (empty : self.listener.queues packet.kind = []) (sent : self.wire = packet :: rest)
    (foreign : ¬ self.CausedBy packet call.number) :
    ∃ received taken, self.step .receive = some received ∧ received.step .take = some taken ∧
      ¬ taken.Attributed := by
  obtain ⟨number, request, point⟩ := call
  have popped : ∃ listener, (self.listener.enqueueLocked packet.kind packet).popHead packet.kind =
      some (packet, listener) := by
    rw [Listener.popHead, Listener.queues_enqueueLocked, empty,
      DropOldest.push_of_lt (by decide), List.nil_append]
    exact ⟨_, rfl⟩
  obtain ⟨listener, popped⟩ := popped
  let received : Transport := { self with
    wire := rest, listener := self.listener.enqueueLocked packet.kind packet }
  have receives : self.step .receive = some received := by
    simp only [Transport.step, sent]
    rfl
  have takes : ∃ taken, received.take ⟨number, request, point⟩ = some taken ∧
      taken.writes = self.writes ∧ (packet, number) ∈ taken.takers := by
    rw [take, show Point.awaited request point = some packet.kind from awaits, Option.bind_eq_bind,
      Option.bind_some, show received.listener.popHead packet.kind = _ from popped,
      Option.bind_eq_bind, Option.bind_some]
    have listed : (packet, number) ∈ self.takers ++ [(packet, number)] :=
      List.mem_append_right _ List.mem_cons_self
    cases point with
    | awaitAck round attempt =>
      dsimp only
      split
      · exact ⟨_, rfl, rfl, listed⟩
      · exact ⟨_, rfl, rfl, listed⟩
    | awaitResponse round ack => exact ⟨_, rfl, rfl, listed⟩
    | drainResponse | drainAck | write => cases awaits
  obtain ⟨taken, takes, writes, listed⟩ := takes
  refine ⟨received, taken, receives, ?_, fun attributed => ?_⟩
  · rw [Transport.step, show received.current = some _ from on, Option.bind_some, takes]
  · have own := attributed.takers _ listed
    rw [CausedBy, writes] at own
    exact foreign own

end Transport

/-! ### Main results -/

open Reachability (Reaches run)

/-- In every run packets are handed out in order, once and by kind; in the runs where nothing of
an earlier call arrives between a drain and the wait it is for, calls succeed on their own
replies, and a packet that does arrive so is taken by the wait it meets. -/
theorem command_succeeds_on_its_reply (state : Transport) :
    (Reaches Transport.step (fun _ _ => True) .start state → state.Delivers) ∧
    (Reaches Transport.step Transport.Timely .start state → state.Attributed) ∧
    ∀ (call : Call) (packet : Packet) (rest : List Packet), state.current = some call →
      Transport.Point.awaited call.request call.point = some packet.kind →
      state.listener.queues packet.kind = [] → state.wire = packet :: rest →
      ¬ state.CausedBy packet call.number →
      ∃ received taken, state.step .receive = some received ∧
        received.step .take = some taken ∧ ¬ taken.Attributed := by
  refine ⟨fun reached => ?_, fun reached => ?_, fun call packet rest => ?_⟩
  · exact reached.invariant Transport.Delivers Transport.delivers_start
      fun _ _ _ h _ succeeds => h.step succeeds
  · exact (reached.invariant Transport.Guarded Transport.guarded_start
      fun _ _ _ h timely succeeds => h.step timely succeeds).attributed
  · exact Transport.untimely_taken

/-- A first ACK that comes after its time-out leaves the ACK of the resend for the next call. -/
def lateAck : List TransportStep :=
  [.call ⟨[0x20], none⟩, .drain, .write, .timeOut, .write, .acknowledge 0, .receive, .take,
   .call ⟨[0x32], none⟩, .drain, .write, .acknowledge 1, .receive, .take]

theorem late_ack_attributed_wrongly :
    ¬ ∀ state, Reaches Transport.step (fun _ _ => True) .start state → state.Attributed := by
  intro attributed
  obtain ⟨state, ran, writes, returned⟩ : ∃ state, run Transport.step .start lateAck = some state ∧
      state.writes = [⟨[0x20], 0⟩, ⟨[0x20], 0⟩, ⟨[0x32], 1⟩] ∧
      state.returned = [⟨0, ⟨[0x20], none⟩, some (⟨pktRead, 0⟩, none)⟩,
        ⟨1, ⟨[0x32], none⟩, some (⟨pktRead, 1⟩, none)⟩] := ⟨_, rfl, rfl, rfl⟩
  have reached := Reaches.start.run (fun _ _ _ => trivial) ran
  have own := ((attributed state reached).returned ⟨1, ⟨[0x32], none⟩, some (⟨pktRead, 1⟩, none)⟩
    (returned ▸ by decide) ⟨pktRead, 1⟩ none rfl).1
  rw [Transport.CausedBy, writes] at own
  exact absurd own (by decide)

end GoodixSpi.Driver
