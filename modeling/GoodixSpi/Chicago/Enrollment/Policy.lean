import Mathlib.Tactic.Lemma
import Mathlib.Data.List.Basic

/-! The enrollment policy of the engine adapter: which captures advance the enrollment,
which are tipped, and the first tip that is set aside and restored one capture later. -/

namespace GoodixSpi.Chicago

abbrev engineRequiredSamples : Nat := 12

structure EngineEnrollmentPolicy where
  touched : Nat
  enrolled : Nat
  tipped : Nat
  used : Nat
  lastTipped : Nat
  continuousTips : Nat
  tipIndex : Fin 4
  previousTipIndex : Fin 4
  deferredPending : Bool
  deferCurrentSample : Bool
  restoreDeferredSample : Bool
deriving DecidableEq

/-- `position_x`, `position_y` of a capture. -/
abbrev Position := UInt32 × UInt32

namespace EngineEnrollmentPolicy

def init : EngineEnrollmentPolicy where
  touched := 0
  enrolled := 0
  tipped := 0
  used := 0
  lastTipped := 0
  continuousTips := 0
  tipIndex := 0
  previousTipIndex := 0
  deferredPending := false
  deferCurrentSample := false
  restoreDeferredSample := false

def directions : Vector UInt32 4 := #v[4, 1, 3, 2]

/-- What one call of the policy returns. -/
structure Admission where
  policy : EngineEnrollmentPolicy
  accepted : Bool
  rejectDetail : UInt32
deriving DecidableEq

variable (policy : EngineEnrollmentPolicy)

/-- The bookkeeping before the decision. -/
def touch : EngineEnrollmentPolicy :=
  { policy with
    touched := policy.touched + 1
    enrolled := policy.enrolled + 1
    deferCurrentSample := false
    restoreDeferredSample := policy.deferredPending
    deferredPending := if policy.deferredPending then false else policy.deferredPending }

def tips (position : Position) : Bool :=
  if policy.tipped ≥ 8 ∨ policy.continuousTips ≥ 2 then false
  else decide (policy.used + 1 ≥ 5 ∧ policy.used + 1 ≤ 12 ∧
    (position.1 > 30 ∨ position.2 > 20))

/-- A tip. The first one of a run sets its sample aside. -/
def tip : EngineEnrollmentPolicy :=
  { policy with
    deferCurrentSample := if policy.tipped = 0 then true else policy.deferCurrentSample
    deferredPending := if policy.tipped = 0 then true else policy.deferredPending
    lastTipped := policy.touched
    continuousTips := policy.continuousTips + 1
    tipped := policy.tipped + 1
    previousTipIndex := policy.tipIndex }

def advance : EngineEnrollmentPolicy :=
  { policy with
    tipIndex :=
      if policy.lastTipped ≠ 0 ∧ policy.lastTipped + 1 = policy.touched then policy.tipIndex + 1
      else policy.tipIndex
    continuousTips := 0
    used := policy.used + 1 }

def accept (position : Position) : Admission :=
  let touched := policy.touch
  if touched.tips position then ⟨touched.tip, false, directions[touched.tipIndex]⟩
  else ⟨touched.advance, true, 0⟩

def complete : Bool := policy.used ≥ engineRequiredSamples

/-- The calls of a run that stops as soon as the policy is complete. -/
def calls : EngineEnrollmentPolicy → List Position → List Admission
  | _, [] => []
  | policy, position :: rest =>
    if policy.complete then []
    else policy.accept position :: calls (policy.accept position).policy rest

lemma directions_ne_zero (index : Fin 4) : directions[index] ≠ 0 := by
  revert index
  decide

lemma tips_room {position : Position} (h : policy.tips position = true) :
    policy.tipped < 8 ∧ policy.continuousTips < 2 := by
  unfold tips at h
  split at h
  · cases h
  · next caps => omega

/-- What holds between two calls of a run that is not over. -/
structure Consistent : Prop where
  touched : policy.touched = policy.used + policy.tipped
  enrolled : policy.enrolled = policy.touched
  tipped : policy.tipped ≤ 8
  continuousTips : policy.continuousTips ≤ 2
  used : policy.used ≤ engineRequiredSamples
  pending : policy.deferredPending = policy.deferCurrentSample
  deferred : policy.deferCurrentSample = true → 0 < policy.tipped

lemma consistent_init : Consistent init := by
  constructor <;> decide

variable {policy}

lemma Consistent.touch (h : policy.Consistent) :
    policy.touch.deferredPending = false ∧ policy.touch.touched = policy.used + policy.tipped + 1 ∧
      policy.touch.enrolled = policy.used + policy.tipped + 1 := by
  refine ⟨?_, ?_, ?_⟩
  · cases pending : policy.deferredPending with
    | false => simp [EngineEnrollmentPolicy.touch, pending]
    | true => simp [EngineEnrollmentPolicy.touch, pending]
  · simp [EngineEnrollmentPolicy.touch, h.touched]
  · simp [EngineEnrollmentPolicy.touch, h.enrolled, h.touched]

/-- One call: it restores what the call before deferred, and it defers only the first tip. -/
structure Served (policy : EngineEnrollmentPolicy) (call : Admission) : Prop where
  consistent : call.policy.Consistent
  restores : call.policy.restoreDeferredSample = policy.deferCurrentSample
  defers : call.policy.deferCurrentSample = true → policy.tipped = 0
  tipped : policy.tipped ≤ call.policy.tipped
  detail : call.rejectDetail ≠ 0 ↔ call.accepted = false
  complete : call.policy.complete = true → call.policy.deferredPending = false

lemma Consistent.accept (h : policy.Consistent) (running : policy.complete = false)
    (position : Position) : policy.Served (policy.accept position) := by
  have below : policy.used < engineRequiredSamples := by simpa [complete] using running
  obtain ⟨clear, touched, enrolled⟩ := h.touch
  have restores : policy.touch.restoreDeferredSample = policy.deferCurrentSample := h.pending
  unfold EngineEnrollmentPolicy.accept
  dsimp only
  split
  · next tipping =>
    obtain ⟨roomTips, roomContinuous⟩ := policy.touch.tips_room tipping
    have tips : policy.touch.tipped = policy.tipped := rfl
    have runs : policy.touch.continuousTips = policy.continuousTips := rfl
    have calm : policy.touch.deferCurrentSample = false := rfl
    have uses : policy.touch.used = policy.used := rfl
    constructor
    · constructor
      · simp only [tip, touched, uses, tips]
        omega
      · simp only [tip, touched, enrolled]
      · simp only [tip]
        omega
      · simp only [tip]
        omega
      · simp only [tip]
        omega
      · simp only [tip, clear, calm]
      · intro _
        simp only [tip]
        omega
    · exact restores
    · intro deferred
      by_contra earlier
      simp [tip, tips, earlier, calm] at deferred
    · simp only [tip]
      omega
    · exact ⟨fun _ => rfl, fun _ => directions_ne_zero _⟩
    · intro done
      have : policy.touch.used ≥ engineRequiredSamples := by
        simpa [complete, tip] using done
      omega
  · have uses : policy.touch.used = policy.used := rfl
    have tips : policy.touch.tipped = policy.tipped := rfl
    have capped := h.tipped
    constructor
    · constructor
      · simp only [advance, touched, uses, tips]
        omega
      · simp only [advance, touched, enrolled]
      · exact capped
      · exact Nat.zero_le 2
      · exact below
      · exact clear
      · intro deferred
        cases deferred
    · exact restores
    · intro deferred
      cases deferred
    · exact Nat.le_refl _
    · exact ⟨fun nonzero => absurd rfl nonzero, fun refused => nomatch refused⟩
    · exact fun _ => clear

/-- A run serves each of its calls in the state the call before left. -/
lemma calls_served (h : policy.Consistent) (positions : List Position) {n : Nat}
    {call : Admission} (listed : (policy.calls positions)[n]? = some call) :
    ∃ before : EngineEnrollmentPolicy, before.Consistent ∧ before.complete = false ∧
      before.Served call ∧
      (n = 0 ∧ before = policy ∨ ∃ m earlier, n = m + 1 ∧
        (policy.calls positions)[m]? = some earlier ∧ before = earlier.policy) := by
  induction positions generalizing policy n with
  | nil => simp [calls] at listed
  | cons position rest ih =>
    unfold calls at listed ⊢
    split at listed
    · simp at listed
    · next running =>
      have running : policy.complete = false := by simpa using running
      have served := h.accept running position
      rw [if_neg (by simp [running])]
      cases n with
      | zero =>
        obtain rfl : policy.accept position = call := by simpa using listed
        exact ⟨policy, h, running, served, .inl ⟨rfl, rfl⟩⟩
      | succ n =>
        rw [List.getElem?_cons_succ] at listed
        obtain ⟨before, consistent, open_, serves, first | later⟩ :=
          ih served.consistent listed
        · obtain ⟨rfl, rfl⟩ := first
          exact ⟨_, consistent, open_, serves, .inr ⟨0, _, rfl, rfl, rfl⟩⟩
        · obtain ⟨m, earlier, rfl, here, rfl⟩ := later
          exact ⟨_, consistent, open_, serves, .inr ⟨m + 1, earlier, rfl, by simpa using here, rfl⟩⟩

/-- No call of a run that has tipped already defers its sample. -/
lemma calls_defer_none (h : policy.Consistent) (tipped : 0 < policy.tipped)
    (positions : List Position) :
    (policy.calls positions).countP (fun call => call.policy.deferCurrentSample) = 0 := by
  rw [List.countP_eq_zero]
  intro call listed deferred
  induction positions generalizing policy with
  | nil => cases listed
  | cons position rest ih =>
    unfold calls at listed
    split at listed
    · cases listed
    · next running =>
      have served := h.accept (by simpa using running) position
      rcases List.mem_cons.mp listed with rfl | later
      · have := served.defers deferred
        omega
      · exact ih served.consistent (by have := served.tipped; omega) later

lemma calls_defer_once (h : policy.Consistent) (positions : List Position) :
    (policy.calls positions).countP (fun call => call.policy.deferCurrentSample) ≤ 1 := by
  induction positions generalizing policy with
  | nil => exact Nat.zero_le 1
  | cons position rest ih =>
    unfold calls
    split
    · exact Nat.zero_le 1
    · next running =>
      have served := h.accept (by simpa using running) position
      rw [List.countP_cons]
      split
      · next deferred =>
        have none_later :=
          calls_defer_none served.consistent (served.consistent.deferred deferred) rest
        omega
      · exact ih served.consistent

lemma accept_touched (position : Position) :
    (policy.accept position).policy.touched = policy.touched + 1 := by
  unfold accept
  dsimp only
  split <;> rfl

lemma calls_length (h : policy.Consistent) (positions : List Position) :
    policy.touched + (policy.calls positions).length ≤ engineRequiredSamples + 8 := by
  induction positions generalizing policy with
  | nil =>
    have used := h.used
    have tipped := h.tipped
    have touched := h.touched
    simp only [calls, List.length_nil]
    omega
  | cons position rest ih =>
    unfold calls
    split
    · have used := h.used
      have tipped := h.tipped
      have touched := h.touched
      simp only [List.length_nil]
      omega
    · next running =>
      have served := h.accept (by simpa using running) position
      have few := ih served.consistent
      rw [accept_touched] at few
      rw [List.length_cons]
      omega

/-- A run that is given enough captures completes. -/
lemma calls_complete (h : policy.Consistent) (positions : List Position)
    (enough : engineRequiredSamples + 8 ≤ policy.touched + positions.length) :
    policy.complete = true ∨
      ∃ last, (policy.calls positions).getLast? = some last ∧ last.policy.complete = true := by
  induction positions generalizing policy with
  | nil =>
    have tipped := h.tipped
    have touched := h.touched
    rw [List.length_nil] at enough
    exact .inl (decide_eq_true (by omega))
  | cons position rest ih =>
    unfold calls
    split
    · next done => exact .inl done
    · next running =>
      have served := h.accept (by simpa using running) position
      rw [List.length_cons] at enough
      right
      rcases ih served.consistent (by rw [accept_touched]; omega) with done | ⟨last, final, done⟩
      · cases rest with
        | nil => exact ⟨_, rfl, done⟩
        | cons later more => exact ⟨_, by simp [calls, done], done⟩
      · exact ⟨last, by rw [List.getLast?_cons, final, Option.getD_some], done⟩

end EngineEnrollmentPolicy

open EngineEnrollmentPolicy

/-- The counters of every run agree, the tips stay within their caps, one sample at most is
deferred and it is restored on the next call, and the run completes. -/
theorem enrollment_policy_run (positions : List Position) :
    (∀ call ∈ init.calls positions,
      call.policy.touched = call.policy.enrolled ∧
      call.policy.enrolled = call.policy.used + call.policy.tipped ∧
      call.policy.tipped ≤ 8 ∧ call.policy.continuousTips ≤ 2 ∧
      (call.rejectDetail ≠ 0 ↔ call.accepted = false) ∧
      (call.policy.complete = true → call.policy.deferredPending = false)) ∧
    (init.calls positions).countP (fun call => call.policy.deferCurrentSample) ≤ 1 ∧
    (∀ n call, (init.calls positions)[n]? = some call →
      (call.policy.restoreDeferredSample = true ↔ ∃ m earlier, n = m + 1 ∧
        (init.calls positions)[m]? = some earlier ∧
        earlier.policy.deferCurrentSample = true)) ∧
    (init.calls positions).length ≤ engineRequiredSamples + 8 ∧
    (engineRequiredSamples + 8 ≤ positions.length →
      ∃ last, (init.calls positions).getLast? = some last ∧ last.policy.complete = true) := by
  have start := consistent_init
  refine ⟨?_, calls_defer_once start positions, ?_, ?_, ?_⟩
  · intro call listed
    obtain ⟨n, here⟩ := List.mem_iff_getElem?.mp listed
    obtain ⟨before, -, -, served, -⟩ := calls_served start positions here
    have fine := served.consistent
    exact ⟨fine.enrolled.symm, fine.enrolled.trans fine.touched, fine.tipped,
      fine.continuousTips, served.detail, served.complete⟩
  · intro n call here
    obtain ⟨before, -, -, served, first | later⟩ := calls_served start positions here
    · obtain ⟨rfl, rfl⟩ := first
      constructor
      · intro restored
        rw [served.restores] at restored
        cases restored
      · rintro ⟨m, earlier, impossible, -, -⟩
        omega
    · obtain ⟨m, earlier, rfl, listed, rfl⟩ := later
      constructor
      · intro restored
        exact ⟨m, earlier, rfl, listed, served.restores ▸ restored⟩
      · rintro ⟨m', earlier', same, listed', deferred⟩
        obtain rfl : m = m' := by omega
        rw [listed] at listed'
        cases listed'
        exact served.restores.trans deferred
  · have few := calls_length start positions
    simpa [init] using few
  · intro enough
    rcases calls_complete start positions (by simpa [init] using enough) with done | done
    · cases done
    · exact done

/-- The trace of a production enrollment. -/
example : (init.calls [(0, 0), (58, 56), (0, 0), (0, 99), (0, 0), (0, 39), (0, 0), (0, 0), (0, 0),
    (0, 0), (0, 0), (0, 78), (0, 62), (0, 0), (0, 100), (0, 100), (57, 100)]).map
      Admission.rejectDetail = [0, 0, 0, 0, 0, 4, 0, 0, 0, 0, 0, 1, 1, 0, 3, 3, 0] := by
  decide

end GoodixSpi.Chicago
