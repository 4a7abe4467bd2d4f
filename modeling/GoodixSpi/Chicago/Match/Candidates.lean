import GoodixSpi.Chicago.Enrollment.Correspondence

/-! The candidate search of the matcher: for each gallery record the two closest probe
records of its foreground class, within two gates on the Hamming distance. -/

namespace GoodixSpi.Chicago

def matchMatrixStride : Nat := 180
def matchPairLimit : Nat := 31

structure MatchCandidateConfig where
  oldBegin : Nat
  oldEnd : Nat
  newBegin : Nat
  newEnd : Nat
  firstHalfGate : Nat
  combinedGate : Nat

/-- No index stands for `-1`. -/
structure MatchCandidate where
  bestDistance : Nat
  secondDistance : Nat
  bestIndex : Option Nat
  secondIndex : Option Nat
deriving DecidableEq

def MatchCandidate.init : MatchCandidate := ⟨192, 192, none, none⟩

/-- `update_column_candidate`, and the end of the inner loop of `update_candidates`. -/
def MatchCandidate.update (candidate : MatchCandidate) (distance index : Nat) : MatchCandidate :=
  if distance < candidate.bestDistance then
    ⟨distance, candidate.bestDistance, some index, candidate.bestIndex⟩
  else if distance < candidate.secondDistance then
    { candidate with secondDistance := distance, secondIndex := some index }
  else candidate

/-- The distance of two records that pass the gates: the smaller of the one with the
descriptor as it is and the one with its second half reversed in polarity. The record's
bytes from 0x0c on are the descriptor. -/
def gatedDistance (config : MatchCandidateConfig) (old new : FeatureRecord) : Option Nat :=
  let first := hammingWords old 4 new 4 2
  if first > config.firstHalfGate then none
  else
    let half := hammingWords old 12 new 12 2
    let straight := first + half
    let shifted := first + 64 - half
    if straight > config.combinedGate ∧ shifted > config.combinedGate then none
    else
      let straightTail := if straight > config.combinedGate then 192
        else hammingWords old 20 new 20 1 + hammingWords old 28 new 28 1
      let shiftedTail := if shifted > config.combinedGate then 192
        else hammingWords old 20 new 24 1 + hammingWords old 28 new 36 1
      some (min (straight + straightTail) (shifted + shiftedTail))

/-- One gallery record's candidate with its row of the byte matrix. -/
structure CandidateRow where
  candidate : MatchCandidate
  distances : Vector UInt8 matchMatrixStride
deriving DecidableEq

def CandidateRow.init : CandidateRow := ⟨.init, Vector.replicate _ 0xff⟩

def CandidateRow.update (config : MatchCandidateConfig) (old : FeatureRecord)
    (newRecords : List FeatureRecord) (row : CandidateRow) (newIndex : Nat) : CandidateRow :=
  match newRecords[newIndex]?.bind (gatedDistance config old) with
  | none => row
  | some distance =>
    { candidate := row.candidate.update distance newIndex
      distances := row.distances.setIfInBounds newIndex (UInt8.ofNat distance) }

/-- `goodix_chicago_match_update_candidates`. A range that its guards refuse changes
nothing. -/
def updateCandidates (oldRecords newRecords : List FeatureRecord) (config : MatchCandidateConfig)
    (rows : List CandidateRow) : List CandidateRow :=
  if config.oldBegin ≤ config.oldEnd ∧ config.newBegin ≤ config.newEnd ∧
      config.newEnd ≤ matchMatrixStride then
    rows.mapIdx fun oldIndex row =>
      match oldRecords[oldIndex]? with
      | none => row
      | some old =>
        if config.oldBegin ≤ oldIndex ∧ oldIndex < config.oldEnd then
          (List.range' config.newBegin (config.newEnd - config.newBegin)).foldl
            (CandidateRow.update config old newRecords) row
        else row
  else rows

/-- The ratio test of a candidate. -/
def MatchCandidate.selected (bestMultiplier secondMultiplier : Nat) (candidate : MatchCandidate)
    (oldIndex : Nat) : Option Selected :=
  match candidate.bestIndex with
  | none => none
  | some newIndex =>
    if candidate.bestDistance * bestMultiplier ≥ candidate.secondDistance * secondMultiplier then
      none
    else some ⟨oldIndex, newIndex, candidate.bestDistance, candidate.secondDistance⟩

/-- `goodix_chicago_match_select_candidates`. The source fills the rest of its array with
pairs of `-1`. -/
def selectCandidates (newRecords : List FeatureRecord) (candidates : List MatchCandidate)
    (limit bestMultiplier secondMultiplier : Nat) : List Correspondence :=
  let accepted := candidates.zipIdx.filterMap fun entry =>
    entry.1.selected bestMultiplier secondMultiplier entry.2
  if limit = 0 then []
  else (accepted.foldl (selectCandidate limit newRecords) []).map fun selected =>
    ⟨selected.oldIndex, selected.newIndex⟩

/-- What both correspondence searches ask of their arguments. Without it the source
leaves its array of pairs as it was. -/
def splitsAreValid (galleryCount gallerySplit probeCount probeSplit : Nat) : Bool :=
  galleryCount ≤ matchMatrixStride && probeCount ≤ matchMatrixStride &&
    gallerySplit ≤ galleryCount && probeSplit ≤ probeCount

/-- Active gallery records against active probe records, then the others against the
others. -/
def candidateRows (galleryRecords : List FeatureRecord) (gallerySplit : Nat)
    (probeRecords : List FeatureRecord) (probeSplit firstHalfGate combinedGate : Nat) :
    List CandidateRow :=
  let rows := List.replicate galleryRecords.length CandidateRow.init
  let active := updateCandidates galleryRecords probeRecords
    ⟨0, gallerySplit, 0, probeSplit, firstHalfGate, combinedGate⟩ rows
  updateCandidates galleryRecords probeRecords
    ⟨gallerySplit, galleryRecords.length, probeSplit, probeRecords.length, firstHalfGate,
      combinedGate⟩ active

def ordinaryCorrespondencesWithGates (galleryRecords : List FeatureRecord) (gallerySplit : Nat)
    (probeRecords : List FeatureRecord) (probeSplit firstHalfGate combinedGate : Nat) :
    List Correspondence :=
  if splitsAreValid galleryRecords.length gallerySplit probeRecords.length probeSplit then
    let rows := candidateRows galleryRecords gallerySplit probeRecords probeSplit firstHalfGate
      combinedGate
    selectCandidates probeRecords (rows.map CandidateRow.candidate) matchPairLimit 40 38
  else []

def ordinaryCorrespondences (galleryRecords : List FeatureRecord) (gallerySplit : Nat)
    (probeRecords : List FeatureRecord) (probeSplit : Nat) : List Correspondence :=
  ordinaryCorrespondencesWithGates galleryRecords gallerySplit probeRecords probeSplit 23 47

/-- One probe column: the two closest gallery rows of its class. -/
def columnCandidate (rows : List CandidateRow) (fromIndex toIndex probeIndex : Nat)
    (candidate : MatchCandidate) : MatchCandidate :=
  (List.range' fromIndex (toIndex - fromIndex)).foldl (fun candidate galleryIndex =>
    match rows[galleryIndex]? with
    | none => candidate
    | some row =>
      candidate.update (row.distances.toList.getD probeIndex 0xff).toNat galleryIndex) candidate

def columnCandidates (rows : List CandidateRow) (gallerySplit probeCount probeSplit : Nat) :
    List MatchCandidate :=
  (List.range probeCount).map fun probeIndex =>
    if probeIndex < probeSplit then columnCandidate rows 0 gallerySplit probeIndex .init
    else columnCandidate rows gallerySplit rows.length probeIndex .init

/-- `goodix_chicago_match_fallback_correspondences`: the probe looks for the gallery
records. -/
def fallbackCorrespondences (galleryRecords : List FeatureRecord) (gallerySplit : Nat)
    (probeRecords : List FeatureRecord) (probeSplit : Nat) : List Correspondence :=
  if splitsAreValid galleryRecords.length gallerySplit probeRecords.length probeSplit then
    let rows := candidateRows galleryRecords gallerySplit probeRecords probeSplit 23 47
    let candidates := columnCandidates rows gallerySplit probeRecords.length probeSplit
    (selectCandidates galleryRecords candidates matchPairLimit 40 38).map fun pair =>
      ⟨pair.newIndex, pair.oldIndex⟩
  else []

end GoodixSpi.Chicago
