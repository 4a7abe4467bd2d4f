import GoodixSpi.Chicago.Enrollment.Operation
import GoodixSpi.Chicago.Enrollment.Schedule
import Mathlib.Tactic.Ring

/-! The triangular layout: sub-template `i` owns the `i` relations from
`triangleBase i` on, the first one a single unused slot. Every operation keeps it. -/

namespace GoodixSpi.Chicago

def triangleBase (index : Nat) : Nat := if index = 0 then 0 else 1 + index * (index - 1) / 2

lemma triangleBase_succ {index : Nat} (positive : 0 < index) :
    triangleBase (index + 1) = triangleBase index + index := by
  obtain ⟨n, rfl⟩ : ∃ n, index = n + 1 := ⟨index - 1, by omega⟩
  have split : (n + 1 + 1) * (n + 1) = (n + 1) * n + 2 * (n + 1) := by ring
  simp only [triangleBase, Nat.add_eq_zero_iff, one_ne_zero, and_false, if_false,
    Nat.add_sub_cancel, split]
  omega

lemma triangleBase_mono {i j : Nat} (h : i ≤ j) : triangleBase i ≤ triangleBase j := by
  induction j with
  | zero => rw [Nat.le_zero.mp h]
  | succ j ih =>
    rcases Nat.lt_or_eq_of_le h with below | rfl
    · refine (ih (by omega)).trans ?_
      by_cases zero : j = 0
      · subst zero
        decide
      · rw [triangleBase_succ (by omega)]
        omega
    · exact Nat.le_refl _

/-- No two pairs have the same place in the triangle. -/
lemma triangleBase_pair_injective {newer older newer' older' : Nat} (below : older < newer)
    (below' : older' < newer')
    (same : triangleBase newer + older = triangleBase newer' + older') :
    newer = newer' ∧ older = older' := by
  have apart : ∀ {i j k l : Nat}, j < i → i < k → triangleBase i + j < triangleBase k + l := by
    intro i j k l below order
    have next : triangleBase (i + 1) ≤ triangleBase k := triangleBase_mono order
    rw [triangleBase_succ (by omega)] at next
    omega
  rcases Nat.lt_trichotomy newer newer' with earlier | rfl | later
  · have strict := @apart newer older newer' older' below earlier
    omega
  · exact ⟨rfl, by omega⟩
  · have strict := @apart newer' older' newer older below' later
    omega

lemma triangleBase_small {index : Nat} (h : index ≤ enrollmentCapacity) :
    triangleBase index ≤ 1226 :=
  triangleBase_mono h

lemma triangleBase_le (count : Nat) : triangleBase count ≤ count * (count + 1) / 2 := by
  unfold triangleBase
  split
  · omega
  · next positive =>
    obtain ⟨n, rfl⟩ : ∃ n, count = n + 1 := ⟨count - 1, by omega⟩
    have split : (n + 1) * (n + 1 + 1) = (n + 1) * n + 2 * (n + 1) := by ring
    rw [Nat.add_sub_cancel, split]
    omega

/-- What the operations check of a sub-template. -/
structure Subtemplate.Bounded (subtemplate : Subtemplate) (capacity recordLimit : Nat) :
    Prop where
  records : subtemplate.records.length ≤ recordLimit
  active : subtemplate.activeCount ≤ subtemplate.records.length
  lineage : subtemplate.lineageIndex < capacity

lemma Subtemplate.Bounded.of_core {a b : Subtemplate} {capacity recordLimit : Nat}
    (h : b.Bounded capacity recordLimit) (same : a.core = b.core) :
    a.Bounded capacity recordLimit := by
  have records : a.core.records = b.core.records := congrArg Subtemplate.records same
  have active : a.core.activeCount = b.core.activeCount := congrArg Subtemplate.activeCount same
  have lineage : a.core.lineageIndex = b.core.lineageIndex :=
    congrArg Subtemplate.lineageIndex same
  simp only [core_records, core_activeCount, core_lineageIndex] at records active lineage
  exact ⟨by rw [records]; exact h.records, by rw [active, records]; exact h.active,
    by rw [lineage]; exact h.lineage⟩

/-- The representation invariant without the group. -/
structure Layout (e : Enrollment) : Prop where
  capacity : e.capacity = enrollmentCapacity
  recordLimit : e.recordLimit = subtemplateRecordLimit
  count : e.count ≤ enrollmentCapacity
  bases : e.subtemplates.map Subtemplate.relationBase =
    (List.range e.count).map fun index => UInt32.ofNat (triangleBase index)
  subtemplates : ∀ subtemplate ∈ e.subtemplates,
    subtemplate.Bounded enrollmentCapacity subtemplateRecordLimit
  relations : e.relations.length = triangleBase e.count
  transformCount : e.transformCount = e.relations.length
  scheduled : Scheduled e.orderAt e.count enrollmentCapacity

namespace Layout

variable {e after : Enrollment}

lemma new : Layout Enrollment.new where
  capacity := rfl
  recordLimit := rfl
  count := Nat.zero_le _
  bases := rfl
  subtemplates := by simp [Enrollment.new]
  relations := rfl
  transformCount := rfl
  scheduled := by
    refine ⟨fun schedule used => absurd used (Nat.not_lt_zero _),
      fun schedule used => absurd used (Nat.not_lt_zero _), fun schedule _ below => ?_⟩
    rw [Enrollment.orderAt_eq below]
    simp [Enrollment.new]

lemma relationBase (h : Layout e) {index : Nat} (inside : index < e.count) :
    e.relationBase index = UInt32.ofNat (triangleBase index) := by
  have at_ := congrArg (·[index]?) h.bases
  simp only [List.getElem?_map, List.getElem?_range inside, Option.map_some] at at_
  rw [Enrollment.relationBase, at_, Option.getD_some]

lemma relationBase_toNat (h : Layout e) {index : Nat} (inside : index < e.count) :
    (e.relationBase index).toNat = triangleBase index := by
  have small := triangleBase_small (inside.le.trans h.count)
  rw [h.relationBase inside, toNat_ofNat_of_lt (by omega)]

/-- Every pair of sub-templates has its slot in the table. -/
lemma slot_inside (h : Layout e) {newer older : Nat} (inside : newer < e.count)
    (earlier : older < newer) : triangleBase newer + older < e.relations.length := by
  have next := triangleBase_mono (i := newer + 1) (j := e.count) inside
  rw [triangleBase_succ (by omega)] at next
  rw [h.relations]
  omega

end Layout

namespace Enrollment

variable {self after : Enrollment}

lemma Grows.count {added : Subtemplate} {block : Nat} (h : Grows self after added block) :
    after.count = self.count + 1 := by
  have length := congrArg List.length h.cores
  simpa [Enrollment.count] using length

/-- A property of cores that every old sub-template and the new one have. -/
lemma Grows.forall_core {added : Subtemplate} {block : Nat} (h : Grows self after added block)
    {holds : Subtemplate → Prop} (congr : ∀ a b : Subtemplate, a.core = b.core → holds b → holds a)
    (old : ∀ subtemplate ∈ self.subtemplates, holds subtemplate) (new : holds added) :
    ∀ subtemplate ∈ after.subtemplates, holds subtemplate := by
  intro subtemplate listed
  have core : subtemplate.core ∈ after.subtemplates.map Subtemplate.core :=
    List.mem_map_of_mem listed
  rw [h.cores, List.mem_append, List.mem_singleton] at core
  rcases core with before | last
  · obtain ⟨earlier, here, same⟩ := List.mem_map.mp before
    exact congr subtemplate earlier same.symm (old earlier here)
  · exact congr subtemplate added last new

lemma Grows.bases {added : Subtemplate} {block : Nat} (h : Grows self after added block) :
    after.subtemplates.map Subtemplate.relationBase =
      self.subtemplates.map Subtemplate.relationBase ++ [added.relationBase] := by
  have mapped := congrArg (List.map Subtemplate.relationBase) h.cores
  have through : Subtemplate.relationBase ∘ Subtemplate.core = Subtemplate.relationBase := rfl
  simpa only [List.map_append, List.map_map, List.map_cons, List.map_nil, through,
    Subtemplate.core_relationBase] using mapped

end Enrollment

namespace Layout

variable {e after : Enrollment}

/-- Adding a sub-template with its block of relations keeps the layout. -/
lemma grow (h : Layout e) {added : Subtemplate} {block : Nat}
    (grows : Enrollment.Grows e after added block) (room : e.count < enrollmentCapacity)
    (full : block = if e.count = 0 then 1 else e.count)
    (base : added.relationBase = UInt32.ofNat e.relations.length)
    (bounded : added.Bounded enrollmentCapacity subtemplateRecordLimit) : Layout after where
  capacity := grows.capacity.trans h.capacity
  recordLimit := grows.recordLimit.trans h.recordLimit
  count := by
    rw [grows.count]
    exact room
  bases := by
    rw [grows.bases, h.bases, grows.count, List.range_succ, List.map_append, base, h.relations]
    rfl
  subtemplates := grows.forall_core (fun _ _ same old => old.of_core same) h.subtemplates bounded
  relations := by
    rw [grows.relations, grows.count, h.relations, full]
    split
    · next empty => rw [empty]; rfl
    · next started => rw [triangleBase_succ (by omega)]
  transformCount := grows.transformCount
  scheduled := by
    rw [grows.count]
    exact h.scheduled.append room grows.matchOrder

lemma insertFirst (h : Layout e) {sample : Sample} {result : EnrollmentResult}
    (ok : e.insertFirst sample = .ok (after, result)) : Layout after := by
  obtain ⟨empty, records, active, rfl⟩ := Enrollment.insertFirst_ok ok
  have started : e.relations.length = 0 := by
    rw [h.relations, empty]
    rfl
  have grows : Enrollment.Grows e { e with
      subtemplates := e.subtemplates ++ [.fresh sample.records sample.activeCount
        sample.quality sample.coverage sample.metricData e.count]
      matchOrder := e.setMatchOrder 0 0
      relations := e.relations ++ [sentinelRelation]
      transformCount := e.transformCount + 1 }
      (.fresh sample.records sample.activeCount sample.quality sample.coverage sample.metricData
        e.count) 1 :=
    { requiredSamples := rfl
      capacity := rfl
      recordLimit := rfl
      cores := by simp only [List.map_append, List.map_cons, List.map_nil]
      relations := by simp
      transformCount := by simp [h.transformCount]
      matchOrder := by rw [empty] }
  rw [h.recordLimit] at records
  exact h.grow grows (by rw [empty]; decide) (by rw [if_pos empty])
    (by rw [started]; rfl) ⟨records, active, by simp [Subtemplate.fresh, empty]⟩

lemma insertNext (h : Layout e) {sample : Sample} {result : EnrollmentResult}
    (ok : e.insertNext sample = .ok (after, result)) : Layout after := by
  obtain ⟨metricData, -, started, room, records, active, -, rfl⟩ := Enrollment.insertNext_ok ok
  have grows := (Enrollment.insertCompared_outcome e sample metricData
    (e.subtemplates.map (Enrollment.compare sample metricData))).grows
  rw [List.length_map] at grows
  rw [h.capacity] at room
  rw [h.recordLimit] at records
  exact h.grow grows room (by rw [if_neg started]; rfl) rfl ⟨records, active, room⟩

lemma appendStudy (h : Layout e) {probe : SubtemplateView} {selectedIndex appended : Nat}
    {relations : List Relation}
    (ok : e.appendStudy probe selectedIndex relations = .ok (after, appended)) :
    Layout after := by
  obtain ⟨-, -, -, -, started, room, -, valid, -⟩ := Enrollment.appendStudy_ok ok
  obtain ⟨-, -, -, records, active⟩ := Enrollment.probeIsValid_iff.mp valid
  obtain ⟨metricData, source, grows⟩ := Enrollment.appendStudy_grows ok
  rw [h.capacity] at room
  rw [h.recordLimit] at records
  exact h.grow grows room (by rw [if_neg started]) rfl ⟨records, active, room⟩

lemma replaceStudy (h : Layout e) {probe : SubtemplateView}
    {selectedIndex replacementIndex : Nat} {relations : List Relation}
    (ok : e.replaceStudy probe selectedIndex replacementIndex relations = .ok after) :
    Layout after := by
  obtain ⟨replaces, valid⟩ := Enrollment.replaceStudy_replaces ok
  obtain ⟨-, -, -, records, active⟩ := Enrollment.probeIsValid_iff.mp valid
  have fifty : enrollmentCapacity = 50 := rfl
  have full := replaces.full
  rw [h.capacity] at full
  refine
    { capacity := replaces.capacity.trans h.capacity
      recordLimit := replaces.recordLimit.trans h.recordLimit
      count := by rw [replaces.count]; exact h.count
      bases := by rw [replaces.bases, replaces.count, h.bases]
      subtemplates := ?_
      relations := by rw [replaces.relations, replaces.count, h.relations]
      transformCount := by rw [replaces.transformCount, replaces.relations, h.transformCount]
      scheduled := by
        have order : after.orderAt = e.orderAt := by
          funext schedule
          rw [Enrollment.orderAt, Enrollment.orderAt, replaces.matchOrder]
        rw [order, replaces.count]
        exact h.scheduled }
  intro new listed
  have lineage : new.lineageIndex < enrollmentCapacity := by
    rcases replaces.lineage new listed with newest | ⟨old, here, lower⟩
    · omega
    · exact lower.trans_lt (h.subtemplates old here).lineage
  rcases replaces.content new listed with ⟨r, a, -⟩ | ⟨old, here, r, a, -⟩
  · rw [h.recordLimit] at records
    exact ⟨by rw [r]; exact records, by rw [r, a]; exact active, lineage⟩
  · have bounded := h.subtemplates old here
    exact ⟨by rw [r]; exact bounded.records, by rw [r, a]; exact bounded.active, lineage⟩

end Layout

/-! ### Dropping -/

namespace Enrollment

variable {self other : Enrollment}

/-- The visited entries of the order without one of them. -/
def keptOrder (self : Enrollment) (last : Nat) : List UInt32 :=
  ((List.range (last + 1)).map self.orderAt).filter (· != UInt32.ofNat last)

lemma take_matchOrder {size : Nat} (fits : size ≤ enrollmentCapacity) :
    self.matchOrder.toList.take size = (List.range size).map self.orderAt := by
  refine List.ext_getElem (by simp [fits]) fun index inside inside' => ?_
  have below : index < size := by simpa using inside'
  rw [List.getElem_take, List.getElem_map, List.getElem_range, orderAt_eq (by omega)]
  simp

lemma orderAt_dropOrder {last schedule : Nat} (fits : last < enrollmentCapacity)
    (order : other.matchOrder = self.dropOrder last) (inside : schedule < enrollmentCapacity) :
    other.orderAt schedule =
      if schedule = last then maxUInt32
      else if schedule < (self.keptOrder last).length then
        (self.keptOrder last).getD schedule maxUInt32
      else self.orderAt schedule := by
  rw [orderAt_eq inside]
  simp only [order, dropOrder, Vector.getElem_ofFn,
    take_matchOrder (show last + 1 ≤ enrollmentCapacity from fits)]
  rfl

lemma length_keptOrder {last capacity : Nat} (h : Scheduled self.orderAt (last + 1) capacity)
    (fits : last < enrollmentCapacity) : (self.keptOrder last).length = last := by
  have fifty : enrollmentCapacity = 50 := rfl
  have value := toNat_ofNat_of_lt (n := last) (by omega)
  have once : ((List.range (last + 1)).map fun schedule =>
      (self.orderAt schedule).toNat).count last = 1 := by
    rw [h.perm.count_eq]
    exact List.count_eq_one_of_mem List.nodup_range (List.mem_range.mpr (by omega))
  have counted : ((List.range (last + 1)).map self.orderAt).countP (· == UInt32.ofNat last) = 1 := by
    rw [List.count, List.countP_map] at once
    rw [List.countP_map]
    refine Eq.trans (List.countP_congr fun schedule _ => ?_) once
    simp only [Function.comp_apply, beq_iff_eq]
    rw [← UInt32.toNat_inj, value]
  have total := List.length_eq_countP_add_countP (· == UInt32.ofNat last)
    (l := (List.range (last + 1)).map self.orderAt)
  rw [List.length_map, List.length_range, counted] at total
  rw [keptOrder, ← List.countP_eq_length_filter]
  have same : ((List.range (last + 1)).map self.orderAt).countP (· != UInt32.ofNat last) =
      ((List.range (last + 1)).map self.orderAt).countP
        (fun value => decide ¬(value == UInt32.ofNat last) = true) := by
    refine List.countP_congr fun value _ => ?_
    simp
  omega

/-- The order of the sub-templates that remain. -/
lemma scheduled_dropOrder {last capacity : Nat} (h : Scheduled self.orderAt (last + 1) capacity)
    (small : capacity ≤ enrollmentCapacity) (fits : last < enrollmentCapacity)
    (order : other.matchOrder = self.dropOrder last) : Scheduled other.orderAt last capacity := by
  have length := length_keptOrder h fits
  have nodup : (self.keptOrder last).Nodup := by
    refine List.Nodup.filter _ ?_
    have apart := h.nodup
    exact List.Nodup.of_map UInt32.toNat (by rwa [List.map_map])
  have fifty : enrollmentCapacity = 50 := rfl
  have below : ∀ value ∈ self.keptOrder last, value.toNat < last := by
    intro value listed
    obtain ⟨mapped, differs⟩ := List.mem_filter.mp listed
    obtain ⟨schedule, used, rfl⟩ := List.mem_map.mp mapped
    have small := h.below schedule (List.mem_range.mp used)
    have other : (self.orderAt schedule).toNat ≠ last := by
      intro same
      rw [bne_iff_ne, ne_eq, ← UInt32.toNat_inj,
        toNat_ofNat_of_lt (n := last) (by omega)] at differs
      exact differs same
    omega
  have at_ : ∀ schedule (used : schedule < last),
      other.orderAt schedule = (self.keptOrder last)[schedule] := by
    intro schedule used
    rw [orderAt_dropOrder fits order (by omega), if_neg (by omega), if_pos (by omega),
      List.getD_eq_getElem?_getD, List.getElem?_eq_getElem (by omega), Option.getD_some]
  refine ⟨fun schedule used => ?_, fun schedule used previous earlier => ?_,
    fun schedule free inside => ?_⟩
  · rw [at_ schedule used]
    exact below _ (List.getElem_mem _)
  · rw [at_ schedule used, at_ previous (by omega)]
    intro same
    have index := (nodup.getElem_inj_iff).mp same
    omega
  · rw [orderAt_dropOrder fits order (by omega)]
    by_cases here : schedule = last
    · rw [if_pos here]
    · rw [if_neg here, if_neg (by omega)]
      exact h.empty schedule (by omega) inside

end Enrollment

lemma Layout.dropLast {e after : Enrollment} (h : Layout e) (ok : e.dropLast = .ok after) :
    Layout after := by
  obtain ⟨earlier, last, split, rfl⟩ := Enrollment.dropLast_ok ok
  have fifty : enrollmentCapacity = 50 := rfl
  have counted : e.count = earlier.length + 1 := by
    rw [Enrollment.count, split, List.length_append, List.length_singleton]
  have few := h.count
  have base : last.relationBase.toNat = triangleBase earlier.length := by
    rw [← h.relationBase_toNat (show earlier.length < e.count by omega), Enrollment.relationBase, split,
      List.getElem?_concat_length, Option.map_some, Option.getD_some]
  have table : (e.resizeRelations last.relationBase.toNat).length = triangleBase earlier.length := by
    have grown := triangleBase_mono (i := earlier.length) (j := e.count) (by omega)
    rw [Enrollment.resizeRelations, List.length_append, List.length_take, List.length_replicate,
      base, h.relations]
    omega
  have scheduled := h.scheduled
  rw [counted] at scheduled
  exact
    { capacity := h.capacity
      recordLimit := h.recordLimit
      count := by
        show earlier.length ≤ enrollmentCapacity
        omega
      bases := by
        have bases := h.bases
        rw [counted, split, List.map_append, List.range_succ, List.map_append] at bases
        exact (List.append_inj bases (by simp)).1
      subtemplates := fun subtemplate listed =>
        h.subtemplates subtemplate (by rw [split]; exact List.mem_append_left _ listed)
      relations := table
      transformCount := rfl
      scheduled := by
        have room : earlier.length < enrollmentCapacity := by omega
        exact Enrollment.scheduled_dropOrder scheduled (Nat.le_refl _) room rfl }

/-! ### Runs -/

/-- Every operation keeps the layout. -/
theorem Layout.step {e after : Enrollment} (h : Layout e) {operation : Operation}
    (succeeds : e.step operation = some after) : Layout after := by
  cases operation with
  | insertFirst sample =>
    obtain ⟨result, ok⟩ := Enrollment.ok_of_toOption_fst succeeds
    exact h.insertFirst ok
  | insertNext sample =>
    obtain ⟨result, ok⟩ := Enrollment.ok_of_toOption_fst succeeds
    exact h.insertNext ok
  | dropLast => exact h.dropLast (Enrollment.ok_of_toOption succeeds)
  | appendStudy probe selectedIndex relations =>
    obtain ⟨appended, ok⟩ := Enrollment.ok_of_toOption_fst succeeds
    exact h.appendStudy ok
  | replaceStudy probe selectedIndex replacementIndex relations =>
    exact h.replaceStudy (Enrollment.ok_of_toOption succeeds)

theorem layout_of_reachable {permitted : Enrollment → Operation → Prop} {e : Enrollment}
    (h : Reachable permitted e) : Layout e :=
  h.invariant Layout Layout.new fun _ _ _ layout _ succeeds => layout.step succeeds

end GoodixSpi.Chicago
