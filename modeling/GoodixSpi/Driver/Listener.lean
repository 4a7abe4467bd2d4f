import GoodixSpi.Lib.DropOldest
import GoodixSpi.Lib.Reachability

/-! The queues of the listener, one for each command byte. The thread appends what it
receives; a caller drains a queue, or waits for its head. -/

namespace GoodixSpi.Driver

abbrev listenerQueueCap : Nat := 16

/-- The queues, with the packets received and those handed to a wait so far. -/
structure Listener (Packet : Type) where
  queues : UInt8 → List Packet
  received : List (UInt8 × Packet)
  delivered : List (UInt8 × Packet)

namespace Listener

variable {Packet : Type}

def new : Listener Packet where
  queues := fun _ => []
  received := []
  delivered := []

variable (self : Listener Packet)

/-- `listener_enqueue_locked`. -/
def enqueueLocked (cmd : UInt8) (packet : Packet) : Listener Packet :=
  { self with
    queues := Function.update self.queues cmd
      (DropOldest.push listenerQueueCap (self.queues cmd) packet)
    received := self.received ++ [(cmd, packet)] }

/-- `gdix51c0_listener_drain_cmd`. -/
def drainCmd (cmd : UInt8) : Listener Packet :=
  { self with queues := Function.update self.queues cmd [] }

/-- The head that `gdix51c0_listener_await` takes, if there is one. -/
def popHead (cmd : UInt8) : Option (Packet × Listener Packet) :=
  match self.queues cmd with
  | [] => none
  | packet :: rest =>
    some (packet, { self with
      queues := Function.update self.queues cmd rest
      delivered := self.delivered ++ [(cmd, packet)] })

/-- The packets of one kind in a log. -/
def ofKind (cmd : UInt8) (log : List (UInt8 × Packet)) : List Packet :=
  log.filterMap fun entry => if entry.1 = cmd then some entry.2 else none

lemma ofKind_concat (cmd kind : UInt8) (log : List (UInt8 × Packet)) (packet : Packet) :
    ofKind cmd (log ++ [(kind, packet)]) =
      ofKind cmd log ++ if kind = cmd then [packet] else [] := by
  rw [ofKind, List.filterMap_append]
  by_cases same : kind = cmd
  · simp [ofKind, same]
  · simp [ofKind, same]

lemma mem_ofKind {cmd : UInt8} {log : List (UInt8 × Packet)} {packet : Packet} :
    packet ∈ ofKind cmd log ↔ (cmd, packet) ∈ log := by
  simp only [ofKind, List.mem_filterMap, Option.ite_none_right_eq_some, Option.some.injEq]
  constructor
  · rintro ⟨⟨kind, other⟩, listed, rfl, rfl⟩
    exact listed
  · exact fun listed => ⟨_, listed, rfl, rfl⟩

/-- Every queue holds, in the order of arrival, packets that no wait was given. -/
def InOrder (self : Listener Packet) : Prop :=
  ∀ cmd, (ofKind cmd self.delivered ++ self.queues cmd).Sublist (ofKind cmd self.received)

variable {self}

@[simp] lemma queues_enqueueLocked (cmd : UInt8) (packet : Packet) :
    (self.enqueueLocked cmd packet).queues cmd =
      DropOldest.push listenerQueueCap (self.queues cmd) packet := Function.update_self ..

@[simp] lemma queues_drainCmd (cmd : UInt8) : (self.drainCmd cmd).queues cmd = [] :=
  Function.update_self ..

/-- An operation on one queue leaves the others alone. -/
lemma queues_enqueueLocked_of_ne {cmd other : UInt8} (differ : other ≠ cmd) (packet : Packet) :
    (self.enqueueLocked cmd packet).queues other = self.queues other :=
  Function.update_of_ne differ ..

lemma queues_drainCmd_of_ne {cmd other : UInt8} (differ : other ≠ cmd) :
    (self.drainCmd cmd).queues other = self.queues other := Function.update_of_ne differ ..

lemma inOrder_new : (new : Listener Packet).InOrder := fun _ => List.Sublist.refl _

lemma InOrder.enqueueLocked (h : self.InOrder) (cmd : UInt8) (packet : Packet) :
    (self.enqueueLocked cmd packet).InOrder := by
  intro other
  have received : (self.enqueueLocked cmd packet).received = self.received ++ [(cmd, packet)] := rfl
  have delivered : (self.enqueueLocked cmd packet).delivered = self.delivered := rfl
  rw [received, delivered, ofKind_concat]
  by_cases same : other = cmd
  · subst same
    rw [queues_enqueueLocked, if_pos rfl]
    exact DropOldest.push_sublist (h other)
  · rw [queues_enqueueLocked_of_ne same, if_neg (Ne.symm same), List.append_nil]
    exact h other

lemma InOrder.drainCmd (h : self.InOrder) (cmd : UInt8) : (self.drainCmd cmd).InOrder := by
  intro other
  refine List.Sublist.trans (List.Sublist.append_left ?_ _) (h other)
  by_cases same : other = cmd
  · rw [same, queues_drainCmd]
    exact List.nil_sublist _
  · rw [queues_drainCmd_of_ne same]

/-- A wait takes the head of its queue and nothing else. -/
lemma popHead_eq_some {cmd : UInt8} {packet : Packet} {after : Listener Packet}
    (popped : self.popHead cmd = some (packet, after)) :
    self.queues cmd = packet :: after.queues cmd ∧
      (∀ other, other ≠ cmd → after.queues other = self.queues other) ∧
      after.received = self.received ∧ after.delivered = self.delivered ++ [(cmd, packet)] := by
  unfold popHead at popped
  split at popped
  · cases popped
  · next head rest held =>
    cases popped
    refine ⟨?_, fun other differ => Function.update_of_ne differ ..,
      rfl, rfl⟩
    show self.queues cmd = packet :: Function.update self.queues cmd rest cmd
    rw [held, Function.update_self]

lemma InOrder.popHead (h : self.InOrder) {cmd : UInt8} {packet : Packet} {after : Listener Packet}
    (popped : self.popHead cmd = some (packet, after)) : after.InOrder := by
  obtain ⟨held, kept, received, delivered⟩ := popHead_eq_some popped
  intro other
  have ordered := h other
  rw [received, delivered, ofKind_concat]
  by_cases same : other = cmd
  · subst same
    rw [held] at ordered
    rw [if_pos rfl, List.append_assoc]
    exact ordered
  · rw [kept other same, if_neg (Ne.symm same), List.append_nil]
    exact ordered

/-! ### What the operations leave in a queue -/

lemma mem_enqueueLocked {cmd other : UInt8} {packet item : Packet}
    (listed : item ∈ (self.enqueueLocked cmd packet).queues other) :
    item ∈ self.queues other ∨ other = cmd ∧ item = packet := by
  by_cases same : other = cmd
  · subst same
    rw [queues_enqueueLocked] at listed
    exact (DropOldest.mem_push listed).imp_right fun new => ⟨rfl, new⟩
  · rw [queues_enqueueLocked_of_ne same] at listed
    exact .inl listed

lemma mem_drainCmd {cmd other : UInt8} {item : Packet}
    (listed : item ∈ (self.drainCmd cmd).queues other) :
    item ∈ self.queues other ∧ other ≠ cmd := by
  by_cases same : other = cmd
  · rw [same, queues_drainCmd] at listed
    cases listed
  · rw [queues_drainCmd_of_ne same] at listed
    exact ⟨listed, same⟩

lemma mem_popHead {cmd other : UInt8} {packet item : Packet} {after : Listener Packet}
    (popped : self.popHead cmd = some (packet, after)) (listed : item ∈ after.queues other) :
    item ∈ self.queues other := by
  obtain ⟨held, kept, -, -⟩ := popHead_eq_some popped
  by_cases same : other = cmd
  · subst same
    rw [held]
    exact List.mem_cons_of_mem packet listed
  · rwa [kept other same] at listed

end Listener

end GoodixSpi.Driver
