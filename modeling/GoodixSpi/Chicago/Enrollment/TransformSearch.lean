import GoodixSpi.Chicago.Enrollment.Correspondence
import GoodixSpi.Lib.FirstBest
import Mathlib.Data.Prod.Lex
import Mathlib.Order.OrderDual

/-! What the search over triples returns: the first of the best admissible triples that it
examined. It examines all of them unless more than twenty pairs agree with one. -/

namespace GoodixSpi.Chicago

variable {pairs : List (Point × Point)}

/-- The three indices of a triple stand in the order of the nested loops. -/
lemma mem_triples {count first second third : Nat} :
    (first, second, third) ∈ triples count ↔ first < second ∧ second < third ∧ third < count := by
  simp only [triples, List.mem_flatMap, List.mem_range, List.mem_range'_1, List.mem_map,
    Prod.mk.injEq]
  constructor
  · rintro ⟨a, ha, b, hb, c, hc, rfl, rfl, rfl⟩
    omega
  · rintro ⟨one, two, three⟩
    exact ⟨first, by omega, second, by omega, third, by omega, rfl, rfl, rfl⟩

/-- What a triple gives, if its three pairs exist. -/
def resultAt (pairs : List (Point × Point)) (triple : Nat × Nat × Nat) : Option TransformResult :=
  match pairs[triple.1]?, pairs[triple.2.1]?, pairs[triple.2.2]? with
  | some p₀, some p₁, some p₂ => some (tripleResult pairs p₀ p₁ p₂)
  | _, _, _ => none

/-- More inliers, or as many with a smaller average error. -/
def TransformResult.Better (found other : TransformResult) : Prop :=
  found.inlierCount > other.inlierCount ∨
    found.inlierCount = other.inlierCount ∧ found.error < other.error

instance (found other : TransformResult) : Decidable (found.Better other) :=
  inferInstanceAs (Decidable (_ ∨ _))

/-- The transform of the triple has a valid scale, and some pair agrees with it. -/
def Admissible (pairs : List (Point × Point)) (triple : Nat × Nat × Nat)
    (found : TransformResult) : Prop :=
  resultAt pairs triple = some found ∧ transformScaleIsValid found.values = true ∧
    0 < found.inlierCount

/-- The first of the best of the triples. -/
def BestTriple (pairs : List (Point × Point)) (examined : List (Nat × Nat × Nat))
    (found : TransformResult) : Prop :=
  ∃ before triple after, examined = before ++ triple :: after ∧ Admissible pairs triple found ∧
    (∀ earlier ∈ before, ∀ other, Admissible pairs earlier other → found.Better other) ∧
    ∀ later ∈ after, ∀ other, Admissible pairs later other → ¬other.Better found

/-- The flags say which pairs the transform of the result carries close enough. -/
def FlagsAgree (pairs : List (Point × Point)) (result : TransformResult) : Prop :=
  result.inliers = pairs.map fun pair => (pairResidual result.values pair.1 pair.2).isSome

instance (pairs : List (Point × Point)) (result : TransformResult) :
    Decidable (FlagsAgree pairs result) := inferInstanceAs (Decidable (_ = _))

lemma tripleResult_flags (p₀ p₁ p₂ : Point × Point) :
    FlagsAgree pairs (tripleResult pairs p₀ p₁ p₂) := by
  simp only [FlagsAgree, tripleResult, List.map_map]
  rfl

lemma length_filterMap_id (residuals : List (Option Int)) :
    (residuals.filterMap id).length = (residuals.map Option.isSome).count true := by
  induction residuals with
  | nil => rfl
  | cons residual rest ih =>
    cases residual with
    | none => simpa using ih
    | some value => simpa using ih

lemma tripleResult_count (p₀ p₁ p₂ : Point × Point) :
    (tripleResult pairs p₀ p₁ p₂).inlierCount =
      (tripleResult pairs p₀ p₁ p₂).inliers.count true :=
  length_filterMap_id _

lemma tripleResult_error {p₀ p₁ p₂ : Point × Point}
    (none : (tripleResult pairs p₀ p₁ p₂).inlierCount = 0) :
    (tripleResult pairs p₀ p₁ p₂).error = 0x190000 :=
  if_pos none

lemma resultAt_eq_some {triple : Nat × Nat × Nat} {found : TransformResult}
    (h : resultAt pairs triple = some found) :
    ∃ p₀ p₁ p₂, found = tripleResult pairs p₀ p₁ p₂ := by
  unfold resultAt at h
  split at h
  · next p₀ p₁ p₂ _ _ _ => exact ⟨p₀, p₁, p₂, (Option.some.inj h).symm⟩
  · cases h

/-! ### The loop as a scan for the first best triple -/

section Scan

variable (pairs)

def foundAt (triple : Nat × Nat × Nat) : TransformResult :=
  (resultAt pairs triple).getD (.init pairs.length)

def rankAt (triple : Nat × Nat × Nat) : ℕ ×ₗ ℤᵒᵈ :=
  toLex ((foundAt pairs triple).inlierCount, OrderDual.toDual (foundAt pairs triple).error)

def admissibleAt (triple : Nat × Nat × Nat) : Bool :=
  (resultAt pairs triple).any fun found =>
    transformScaleIsValid found.values && decide (0 < found.inlierCount)

variable {pairs} {triple : Nat × Nat × Nat} {found other : TransformResult}

lemma foundAt_eq (h : resultAt pairs triple = some found) : foundAt pairs triple = found := by
  rw [foundAt, h, Option.getD_some]

lemma admissibleAt_iff :
    admissibleAt pairs triple = true ↔ Admissible pairs triple (foundAt pairs triple) := by
  unfold admissibleAt Admissible foundAt
  cases resultAt pairs triple with
  | none => simp
  | some found => simp

lemma Admissible.foundAt (h : Admissible pairs triple found) : foundAt pairs triple = found :=
  foundAt_eq h.1

lemma Admissible.admissibleAt (h : Admissible pairs triple found) :
    admissibleAt pairs triple = true := by
  rw [admissibleAt_iff, h.foundAt]
  exact h

lemma rankAt_lt {triple' : Nat × Nat × Nat} (h : foundAt pairs triple = found)
    (h' : foundAt pairs triple' = other) :
    rankAt pairs triple < rankAt pairs triple' ↔ other.Better found := by
  unfold rankAt TransformResult.Better
  rw [Prod.Lex.lt_iff, h, h', eq_comm]
  rfl

/-- The result that goes with the triple that the scan holds. -/
def Holds (pairs : List (Point × Point)) (result : TransformResult) :
    Option (Nat × Nat × Nat) → Prop
  | none => result = .init pairs.length
  | some triple => Admissible pairs triple result

lemma considerTriple_eq (result : TransformResult) (h : resultAt pairs triple = some found) :
    considerTriple pairs result triple =
      if found.Better result ∧ transformScaleIsValid found.values = true then found
      else result := by
  unfold resultAt at h
  split at h
  · next p₀ p₁ p₂ h₀ h₁ h₂ =>
    cases h
    simp only [considerTriple, h₀, h₁, h₂]
    rfl
  · cases h

lemma considerTriple_of_none (result : TransformResult) (h : resultAt pairs triple = none) :
    considerTriple pairs result triple = result := by
  unfold resultAt at h
  split at h
  · cases h
  · next missing =>
    unfold considerTriple
    split
    · next p₀ p₁ p₂ h₀ h₁ h₂ => exact absurd h₂ (missing p₀ p₁ p₂ h₀ h₁)
    · rfl

/-- The result of the start loses against every inlier and against nothing else. -/
lemma better_init_iff (h : resultAt pairs triple = some found) :
    found.Better (.init pairs.length) ↔ 0 < found.inlierCount := by
  constructor
  · rintro (more | ⟨none, closer⟩)
    · exact more
    · obtain ⟨p₀, p₁, p₂, rfl⟩ := resultAt_eq_some h
      rw [tripleResult_error none] at closer
      exact absurd closer (lt_irrefl _)
  · exact .inl

/-- One round moves the result and the triple that it came from together. -/
lemma considerTriple_holds {result : TransformResult} {best : Option (Nat × Nat × Nat)}
    (holds : Holds pairs result best) (triple : Nat × Nat × Nat) :
    Holds pairs (considerTriple pairs result triple)
      (FirstBest.consider (rankAt pairs) (admissibleAt pairs) best triple) := by
  unfold FirstBest.consider
  cases given : resultAt pairs triple with
  | none =>
    have refused : ¬admissibleAt pairs triple = true := by
      rw [admissibleAt_iff]
      rintro ⟨some, -, -⟩
      rw [given] at some
      cases some
    rw [considerTriple_of_none result given, if_neg refused]
    exact holds
  | some found =>
    rw [considerTriple_eq result given]
    by_cases fits : admissibleAt pairs triple = true
    · have admissible : Admissible pairs triple found := by
        rw [← foundAt_eq given]
        exact admissibleAt_iff.mp fits
      rw [if_pos fits]
      cases best with
      | none =>
        have start : result = .init pairs.length := holds
        rw [start, if_pos ⟨(better_init_iff given).mpr admissible.2.2, admissible.2.1⟩]
        exact admissible
      | some held =>
        have current : Admissible pairs held result := holds
        simp only [FirstBest.keep, rankAt_lt current.foundAt admissible.foundAt]
        by_cases better : found.Better result
        · rw [if_pos better, if_pos ⟨better, admissible.2.1⟩]
          exact admissible
        · rw [if_neg better, if_neg fun both => better both.1]
          exact current
    · rw [if_neg fits, if_neg]
      · exact holds
      · rintro ⟨better, valid⟩
        -- a valid transform without an inlier does not even beat the start
        have none : found.inlierCount = 0 := by
          by_contra some
          refine fits (Admissible.admissibleAt ⟨given, valid, Nat.pos_of_ne_zero some⟩)
        have start : found.Better (.init pairs.length) := by
          cases best with
          | none =>
            have start : result = .init pairs.length := holds
            rwa [start] at better
          | some held =>
            have current : Admissible pairs held result := holds
            have positive := current.2.2
            rcases better with more | ⟨same, -⟩ <;> omega
        have positive := (better_init_iff given).mp start
        omega

/-- More than twenty pairs agree. -/
def manyAt (pairs : List (Point × Point)) (triple : Nat × Nat × Nat) : Bool :=
  decide (20 < (foundAt pairs triple).inlierCount)

lemma many_holds {result : TransformResult} {best : Option (Nat × Nat × Nat)}
    (holds : Holds pairs result best) :
    best.any (manyAt pairs) = true ↔ result.inlierCount > 20 := by
  cases best with
  | none =>
    have start : result = .init pairs.length := holds
    rw [start, Option.any_none]
    exact ⟨fun many => absurd many Bool.false_ne_true,
      fun many => absurd many (by decide : ¬0 > 20)⟩
  | some held =>
    have current : Admissible pairs held result := holds
    rw [Option.any_some, manyAt, current.foundAt, decide_eq_true_iff]

/-- The loop runs beside the scan. -/
lemma searchTransform_holds {result : TransformResult} {best : Option (Nat × Nat × Nat)}
    (holds : Holds pairs result best) (items : List (Nat × Nat × Nat)) :
    Holds pairs (searchTransform pairs items result)
      (FirstBest.scan (rankAt pairs) (admissibleAt pairs) (manyAt pairs) items best) := by
  induction items generalizing result best with
  | nil => exact holds
  | cons triple rest ih =>
    have next := considerTriple_holds holds triple
    simp only [searchTransform, FirstBest.scan]
    by_cases many : (considerTriple pairs result triple).inlierCount > 20
    · rw [if_pos many, if_pos ((many_holds next).mpr many)]
      exact next
    · rw [if_neg many, if_neg fun enough => many ((many_holds next).mp enough)]
      exact ih next

lemma Admissible.flags (h : Admissible pairs triple found) : FlagsAgree pairs found := by
  obtain ⟨p₀, p₁, p₂, rfl⟩ := resultAt_eq_some h.1
  exact tripleResult_flags p₀ p₁ p₂

lemma Holds.count {result : TransformResult} {best : Option (Nat × Nat × Nat)}
    (holds : Holds pairs result best) : result.inlierCount = result.inliers.count true := by
  cases best with
  | none =>
    have start : result = .init pairs.length := holds
    rw [start]
    exact (List.count_eq_zero.mpr fun listed =>
      absurd (List.eq_of_mem_replicate listed) (by decide)).symm
  | some held =>
    have current : Admissible pairs held result := holds
    obtain ⟨p₀, p₁, p₂, rfl⟩ := resultAt_eq_some current.1
    exact tripleResult_count p₀ p₁ p₂

end Scan

/-! ### The result of the whole search -/

end GoodixSpi.Chicago
