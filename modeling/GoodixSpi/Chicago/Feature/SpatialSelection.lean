import GoodixSpi.Chicago.Feature.Record

/-! The bounded list of correspondences. Candidates arrive one by one; of two whose
new records lie within 0x100 of each other only the closer descriptor match stays, and
a full list gives up its worst entry. -/

namespace GoodixSpi.Chicago

structure Selected where
  oldIndex : Nat
  newIndex : Nat
  bestDistance : Nat
  secondDistance : Nat
deriving DecidableEq

/-- The squared distance of two records' refined positions. -/
def squaredDistance (a b : FeatureRecord) : Int :=
  let dx : Int := (a.unsignedX : Int) - b.unsignedX
  let dy : Int := (a.unsignedY : Int) - b.unsignedY
  dx * dx + dy * dy

/-- The list after one pass, or none when an entry already kept is at least as good.
The entries before the scan stand in `before`; an entry that is removed is overwritten
by the last one, which the scan then steps over. -/
def scanSelected (near : Selected → Bool) (candidate : Selected) :
    Nat → Bool → List Selected → List Selected → Option (Bool × List Selected)
  | 0, replaced, before, rest => some (replaced, before ++ rest)
  | _ + 1, replaced, before, [] => some (replaced, before)
  | fuel + 1, replaced, before, existing :: rest =>
    if near existing = false then
      scanSelected near candidate fuel replaced (before ++ [existing]) rest
    else if existing.bestDistance ≤ candidate.bestDistance then
      if replaced then scanSelected near candidate fuel replaced (before ++ [existing]) rest
      else none
    else if replaced = false then
      scanSelected near candidate fuel true (before ++ [candidate]) rest
    else
      match rest.getLast? with
      | none => scanSelected near candidate fuel replaced before rest
      | some last => scanSelected near candidate fuel replaced (before ++ [last]) rest.dropLast

def worstIndex (selected : List Selected) : Nat :=
  (List.range selected.length).foldl (fun worst index =>
    match selected[index]?, selected[worst]? with
    | some a, some b => if a.bestDistance > b.bestDistance then index else worst
    | _, _ => worst) 0

def replaceWorst (selected : List Selected) (candidate : Selected) : List Selected :=
  match selected[worstIndex selected]? with
  | none => selected
  | some worst =>
    if candidate.bestDistance < worst.bestDistance then
      selected.set (worstIndex selected) candidate
    else selected

/-- The new records of two entries are too close to keep both. -/
def nearSelected (newRecords : List FeatureRecord) (candidate existing : Selected) : Bool :=
  match newRecords[candidate.newIndex]?, newRecords[existing.newIndex]? with
  | some a, some b => squaredDistance a b < 0x10000
  | _, _ => false

def selectCandidate (limit : Nat) (newRecords : List FeatureRecord) (selected : List Selected)
    (candidate : Selected) : List Selected :=
  match scanSelected (nearSelected newRecords candidate) candidate selected.length false []
      selected with
  | none => selected
  | some (true, updated) => updated
  | some (false, unchanged) =>
    if unchanged.length < limit then unchanged ++ [candidate]
    else replaceWorst unchanged candidate

/-! ### The list stays within its limit -/

lemma length_scanSelected (near : Selected → Bool) (candidate : Selected) (fuel : Nat)
    (replaced : Bool) (before rest : List Selected) {outcome : Bool × List Selected}
    (h : scanSelected near candidate fuel replaced before rest = some outcome) :
    outcome.2.length ≤ before.length + rest.length := by
  induction fuel generalizing replaced before rest with
  | zero =>
    cases h
    exact (List.length_append).le
  | succ fuel ih =>
    cases rest with
    | nil =>
      cases h
      exact Nat.le_add_right _ _
    | cons existing rest =>
      simp only [scanSelected] at h
      have keep : ∀ replaced (kept : Selected),
          scanSelected near candidate fuel replaced (before ++ [kept]) rest = some outcome →
          outcome.2.length ≤ before.length + (existing :: rest).length := by
        intro replaced kept run
        have bound := ih replaced (before ++ [kept]) rest run
        simp only [List.length_append, List.length_cons, List.length_nil] at bound ⊢
        omega
      split at h
      · exact keep _ _ h
      · split at h
        · split at h
          · exact keep _ _ h
          · cases h
        · split at h
          · exact keep _ _ h
          · split at h
            · have bound := ih _ _ _ h
              simp only [List.length_cons]
              omega
            · have bound := ih _ _ _ h
              simp only [List.length_append, List.length_cons, List.length_nil,
                List.length_dropLast] at bound ⊢
              omega

lemma length_replaceWorst (selected : List Selected) (candidate : Selected) :
    (replaceWorst selected candidate).length = selected.length := by
  unfold replaceWorst
  split
  · rfl
  · split
    · exact List.length_set
    · rfl

lemma length_selectCandidate {limit : Nat} {newRecords : List FeatureRecord}
    {selected : List Selected} (few : selected.length ≤ limit) (candidate : Selected) :
    (selectCandidate limit newRecords selected candidate).length ≤ limit := by
  unfold selectCandidate
  split
  · exact few
  · next updated run =>
    have bound := length_scanSelected _ _ _ _ _ _ run
    simp only [List.length_nil] at bound
    omega
  · next unchanged run =>
    have bound := length_scanSelected _ _ _ _ _ _ run
    simp only [List.length_nil] at bound
    split
    · simp only [List.length_append, List.length_singleton]
      omega
    · rw [length_replaceWorst]
      omega

/-- Whatever candidates arrive, no more than `limit` of them are kept. -/
theorem length_foldl_selectCandidate (limit : Nat) (newRecords : List FeatureRecord)
    (candidates selected : List Selected) (few : selected.length ≤ limit) :
    (candidates.foldl (selectCandidate limit newRecords) selected).length ≤ limit := by
  induction candidates generalizing selected with
  | nil => exact few
  | cons candidate rest ih => exact ih _ (length_selectCandidate few candidate)

end GoodixSpi.Chicago
