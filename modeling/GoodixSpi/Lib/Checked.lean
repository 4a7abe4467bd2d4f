import GoodixSpi.Lib.CArithmetic
import Mathlib.Algebra.Ring.Int.Defs
import Mathlib.Data.List.GetD

/-! Arrays of integers that are read and written under a bounds check, and divisions that check
their denominator. A rule for each shape of code says that it does not fail, and what it returns. -/

namespace Checked

universe u v

variable {α : Type u} {β : Type u}

/-- The code does not fail, and its result has the property. -/
def Returns (code : Option α) (P : α → Prop) : Prop := ∃ a, code = some a ∧ P a

variable {P Q : α → Prop} {R : β → Prop}

lemma Returns.some {a : α} (holds : P a) : Returns (some a) P := ⟨a, rfl, holds⟩

lemma Returns.mono {code : Option α} (returns : Returns code P) (weaker : ∀ a, P a → Q a) :
    Returns code Q := by
  obtain ⟨a, is, holds⟩ := returns
  exact ⟨a, is, weaker a holds⟩

lemma Returns.bind {code : Option α} {next : α → Option β} (returns : Returns code P)
    (goesOn : ∀ a, P a → Returns (next a) R) : Returns (code >>= next) R := by
  obtain ⟨a, rfl, holds⟩ := returns
  exact goesOn a holds

lemma Returns.isSome {code : Option α} (returns : Returns code P) : code.isSome = true := by
  obtain ⟨a, rfl, -⟩ := returns
  rfl

/-! ### Loops -/

/-- A loop that keeps an invariant. -/
lemma Returns.foldlM {item : Type v} {body : α → item → Option α} {items : List item}
    (keeps : ∀ state, P state → ∀ i ∈ items, Returns (body state i) P) {start : α}
    (holds : P start) : Returns (items.foldlM body start) P := by
  induction items generalizing start with
  | nil => exact .some holds
  | cons i rest ih =>
    obtain ⟨here, later⟩ : Returns (body start i) P ∧ ∀ state, P state → ∀ i ∈ rest,
        Returns (body state i) P :=
      ⟨keeps start holds i List.mem_cons_self,
        fun state kept j mem => keeps state kept j (List.mem_cons_of_mem i mem)⟩
    rw [List.foldlM_cons]
    exact here.bind fun state kept => ih later kept

/-- A counting loop whose invariant knows the counter. -/
lemma Returns.count {body : α → ℕ → Option α} {inv : ℕ → α → Prop} (first steps : ℕ)
    (keeps : ∀ index, first ≤ index → index < first + steps → ∀ state, inv index state →
      Returns (body state index) (inv (index + 1))) {start : α} (holds : inv first start) :
    Returns ((List.range' first steps).foldlM body start) (inv (first + steps)) := by
  induction steps with
  | zero => exact .some holds
  | succ steps ih =>
    rw [List.range'_concat, List.foldlM_append, Nat.one_mul]
    refine (ih fun index low high => keeps index low (by omega)).bind fun state kept => ?_
    rw [List.foldlM_cons]
    exact (keeps (first + steps) (by omega) (by omega) state kept).bind fun next kept => .some kept

lemma Returns.mapM {item : Type v} {f : item → Option α} {items : List item}
    (each : ∀ i ∈ items, Returns (f i) P) :
    Returns (items.mapM f) fun out => out.length = items.length ∧ ∀ a ∈ out, P a := by
  induction items with
  | nil => exact .some ⟨rfl, fun _ mem => absurd mem List.not_mem_nil⟩
  | cons i rest ih =>
    rw [List.mapM_cons]
    refine (each i List.mem_cons_self).bind fun a holds => ?_
    refine (ih fun j mem => each j (List.mem_cons_of_mem i mem)).bind fun out kept => ?_
    exact .some ⟨congrArg Nat.succ kept.1, List.forall_mem_cons.mpr ⟨holds, kept.2⟩⟩

lemma Returns.allM {item : Type} {f : item → Option Bool} {items : List item}
    (each : ∀ i ∈ items, Returns (f i) fun _ => True) :
    Returns (items.allM f) fun _ => True := by
  induction items with
  | nil => exact .some trivial
  | cons i rest ih =>
    rw [List.allM]
    refine (each i List.mem_cons_self).bind fun a _ => ?_
    cases a with
    | false => exact .some trivial
    | true => exact ih fun j mem => each j (List.mem_cons_of_mem i mem)

/-! ### Arrays -/

def read (values : List ℤ) (index : ℤ) : Option ℤ :=
  if index < 0 then none else values[index.toNat]?

def update (values : List ℤ) (index : ℤ) (f : ℤ → ℤ) : Option (List ℤ) :=
  if 0 ≤ index ∧ index < values.length then some (values.modify index.toNat f) else none

def write (values : List ℤ) (index value : ℤ) : Option (List ℤ) :=
  update values index fun _ => value

/-- An array of a size, all of whose entries have a property. -/
structure Sized (size : ℕ) (P : ℤ → Prop) (values : List ℤ) : Prop where
  length : values.length = size
  entries : ∀ v ∈ values, P v

variable {size : ℕ} {P : ℤ → Prop} {values : List ℤ} {index : ℤ}

lemma sized_replicate {value : ℤ} (holds : P value) : Sized size P (List.replicate size value) where
  length := List.length_replicate
  entries _ mem := List.eq_of_mem_replicate mem ▸ holds

lemma Sized.map {Q : ℤ → Prop} (holds : Sized size P values) {f : ℤ → ℤ}
    (each : ∀ v, P v → Q (f v)) : Sized size Q (values.map f) where
  length := by rw [List.length_map, holds.length]
  entries := List.forall_mem_map.mpr fun v mem => each v (holds.entries v mem)

lemma read_eq {values : List ℤ} (index : ℤ) (low : 0 ≤ index) (high : index < values.length) :
    read values index = some (values.getD index.toNat 0) := by
  have inside : index.toNat < values.length := by omega
  rw [read, if_neg (by omega), List.getElem?_eq_getElem inside, List.getD_eq_getElem _ _ inside]

lemma Sized.getD (holds : Sized size P values) {place : ℕ} (inside : place < size) :
    P (values.getD place 0) := by
  have listed : place < values.length := by rwa [holds.length]
  rw [List.getD_eq_getElem _ _ listed]
  exact holds.entries _ (List.getElem_mem listed)

lemma Sized.read (holds : Sized size P values) (low : 0 ≤ index) (high : index < size) :
    Returns (read values index) P := by
  have inside : index.toNat < values.length := by
    rw [holds.length]
    omega
  refine ⟨values[index.toNat], ?_, holds.entries _ (List.getElem_mem inside)⟩
  rw [Checked.read, if_neg (by omega), List.getElem?_eq_getElem inside]

lemma Sized.update (holds : Sized size P values) (low : 0 ≤ index) (high : index < size)
    {f : ℤ → ℤ} (keeps : ∀ v, P v → P (f v)) :
    Returns (update values index f) (Sized size P) := by
  rw [Checked.update, if_pos ⟨low, by rw [holds.length]; exact high⟩]
  refine .some ⟨by rw [List.length_modify, holds.length], fun v mem => ?_⟩
  obtain ⟨place, inside, rfl⟩ := List.mem_iff_getElem.mp mem
  rw [List.getElem_modify]
  rw [List.length_modify] at inside
  split
  · exact keeps _ (holds.entries _ (List.getElem_mem inside))
  · exact holds.entries _ (List.getElem_mem inside)

lemma Sized.write (holds : Sized size P values) (low : 0 ≤ index) (high : index < size) {value : ℤ}
    (kept : P value) : Returns (write values index value) (Sized size P) :=
  holds.update low high fun _ _ => kept

/-- A write says what every entry is afterwards. -/
lemma Sized.write_getD (holds : Sized size P values) {place : ℕ} (high : place < size) {value : ℤ}
    (kept : P value) : Returns (Checked.write values place value) fun out => Sized size P out ∧
      ∀ i, out.getD i 0 = if place = i then value else values.getD i 0 := by
  have wrote : Returns (Checked.write values place value) (Sized size P) :=
    holds.write (by omega) (by omega) kept
  obtain ⟨out, is, held⟩ := wrote
  refine ⟨out, is, held, fun i => ?_⟩
  have length := holds.length
  rw [Checked.write, Checked.update, if_pos ⟨by omega, by omega⟩, Option.some.injEq,
    Int.toNat_natCast] at is
  rw [← is, List.getD_eq_getElem?_getD, List.getElem?_modify, List.getD_eq_getElem?_getD]
  by_cases same : place = i
  · subst same
    rw [if_pos rfl, List.getElem?_eq_getElem (by omega)]
    simp
  · simp [same]

lemma sum_modify (values : List ℤ) {place : ℕ} (inside : place < values.length) (more : ℤ) :
    (values.modify place fun v => v + more).sum = values.sum + more := by
  induction values generalizing place with
  | nil => cases inside
  | cons v rest ih =>
    cases place with
    | zero =>
      rw [List.modify_zero_cons, List.sum_cons, List.sum_cons]
      omega
    | succ place =>
      rw [List.modify_succ_cons, List.sum_cons, List.sum_cons, ih (Nat.lt_of_succ_lt_succ inside)]
      omega

/-- Adding to an entry adds to the sum. -/
lemma Sized.add (sized : Sized size P values) (low : 0 ≤ index) (high : index < size) {more : ℤ}
    (keeps : ∀ v, P v → P (v + more)) :
    Returns (Checked.update values index fun v => v + more) fun out =>
      Sized size P out ∧ out.sum = values.sum + more := by
  obtain ⟨out, is, kept⟩ := sized.update low high keeps
  refine ⟨out, is, kept, ?_⟩
  have length := sized.length
  rw [Checked.update, if_pos ⟨low, by omega⟩, Option.some.injEq] at is
  rw [← is, sum_modify values (by omega)]

/-! ### Division -/

/-- It fails unless the denominator is at least 1. -/
def divide (a b : ℤ) : Option ℤ := if 1 ≤ b then some (CArithmetic.quotient a b) else none

lemma returns_divide {a b : ℤ} (positive : 1 ≤ b) :
    Returns (divide a b) fun q => q = CArithmetic.quotient a b := by
  rw [divide, if_pos positive]
  exact .some rfl

lemma quotient_eq_ediv {a b : ℤ} (nonneg : 0 ≤ a) : CArithmetic.quotient a b = a / b :=
  Int.tdiv_eq_ediv_of_nonneg nonneg

lemma returns_divide_nonneg {a b : ℤ} (nonneg : 0 ≤ a) (positive : 1 ≤ b) :
    Returns (divide a b) fun q => q = a / b ∧ 0 ≤ q := by
  refine (returns_divide positive).mono fun q is => ?_
  rw [quotient_eq_ediv nonneg] at is
  exact ⟨is, is ▸ Int.ediv_nonneg nonneg (by omega)⟩

end Checked
