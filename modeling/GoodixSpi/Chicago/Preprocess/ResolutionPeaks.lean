import GoodixSpi.Chicago.Preprocess.ResolutionHistogram
import Mathlib.Algebra.Order.BigOperators.Group.List

/-! Peaks of the resolution histogram: it is smoothed twice, split by Otsu's method, and searched
for a second peak behind a valley. -/

namespace GoodixSpi.Chicago

open CArithmetic Checked

/-! ### `resolution_histogram_otsu` -/

structure OtsuScan where
  prefixWeight : ℤ
  prefixIndex : ℤ
  bestScore : ℤ
  bestIndex : ℤ

def OtsuScan.step (normalized : List ℤ) (totalWeight totalIndex : ℤ) (scan : OtsuScan)
    (index : ℕ) : Option OtsuScan := do
  let weight ← read normalized index
  let prefixWeight := scan.prefixWeight + weight
  let prefixIndex := scan.prefixIndex + weight * index
  if prefixWeight = 0 ∨ prefixWeight = totalWeight then
    some ⟨prefixWeight, prefixIndex, scan.bestScore, scan.bestIndex⟩
  else do
    let below ← divide (prefixIndex * 2 ^ 16) prefixWeight
    let above ← divide ((totalIndex - prefixIndex) * 2 ^ 16) (totalWeight - prefixWeight)
    let difference := below - above
    let score := shiftRight ((totalWeight - prefixWeight) * prefixWeight) 16 *
      shiftRight (difference * difference) 16
    if score ≥ scan.bestScore then some ⟨prefixWeight, prefixIndex, score, index⟩
    else some ⟨prefixWeight, prefixIndex, scan.bestScore, scan.bestIndex⟩

def resolutionHistogramOtsu (histogram : List ℤ) : Option ℤ := do
  let total := histogram.sum
  if total = 0 then some 0
  else do
    let normalized ← histogram.mapM fun height => divide (height * 2 ^ 16) total
    let totalIndex ← (List.range' 0 400).foldlM (fun (sum : ℤ) (index : ℕ) => do
      let weight ← read normalized index
      some (sum + weight * index)) 0
    let scan ← (List.range' 0 399).foldlM (OtsuScan.step normalized normalized.sum totalIndex)
      ⟨0, 0, -1, 399⟩
    some scan.bestIndex

/-! ### Smoothing -/

structure Smoothing where
  temporary : List ℤ
  windowSums : List ℤ

def windowSum (smoothed : List ℤ) (index : ℕ) : Option ℤ :=
  (List.range' 0 21).foldlM (fun (sum : ℤ) (offset : ℕ) => do
    let height ← read smoothed ((index : ℤ) + ((offset : ℤ) - 10))
    some (sum + height)) 0

def Smoothing.step (smoothed : List ℤ) (smoothing : Smoothing) (index : ℕ) : Option Smoothing := do
  let sum ← windowSum smoothed index
  let windowSums ← write smoothing.windowSums index sum
  let mean ← divide (sum + 10) 21
  let temporary ← write smoothing.temporary index mean
  some ⟨temporary, windowSums⟩

/-- One of the two passes; the window sums of the second one replace those of the first. -/
def smoothPass (smoothed windowSums : List ℤ) : Option Smoothing :=
  (List.range' 10 380).foldlM (Smoothing.step smoothed) ⟨smoothed, windowSums⟩

/-- The first and the last ten bins repeat their neighbour. -/
def extendEdges (smoothed : List ℤ) : Option (List ℤ) := do
  let smoothed ← (List.range' 0 10).foldlM (fun (smoothed : List ℤ) (index : ℕ) => do
    let edge ← read smoothed 10
    write smoothed index edge) smoothed
  (List.range' 390 10).foldlM (fun (smoothed : List ℤ) (index : ℕ) => do
    let edge ← read smoothed 389
    write smoothed index edge) smoothed

/-! ### `analyze_resolution_histogram_peaks` -/

structure Highest where
  maximum : ℤ
  maximumIndex : ℤ

def Highest.step (windowSums : List ℤ) (highest : Highest) (index : ℕ) : Option Highest := do
  let sum ← read windowSums index
  if sum > highest.maximum then some ⟨sum, index⟩ else some highest

/-- The first highest of the indices after the start. -/
def highestFrom (windowSums : List ℤ) (start : ℤ) (indices : List ℤ) : Option ℤ :=
  indices.foldlM (fun (best : ℤ) (index : ℤ) => do
    let sum ← read windowSums index
    let bestSum ← read windowSums best
    if sum > bestSum then some index else some best) start

def neighborOffsets : List ℤ :=
  [-10, 10, -9, 9, -8, 8, -7, 7, -6, 6, -5, 5, -4, 4, -3, 3, -2, 2, -1, 1]

def localMaximum (smoothed : List ℤ) (candidate : ℤ) : Option Bool :=
  neighborOffsets.allM fun offset => do
    let neighbor ← read smoothed (candidate + offset)
    let height ← read smoothed candidate
    some (neighbor ≤ height)

/-- The lowest window sum on the way to the maximum. -/
def valleyTo (windowSums : List ℤ) (highest : Highest) (candidate : ℤ) : Option ℤ :=
  (if candidate < highest.maximumIndex then binsFrom candidate (highest.maximumIndex - 1)
    else binsFrom highest.maximumIndex (candidate - 1)).foldlM (fun (valley : ℤ) (index : ℤ) => do
    let sum ← read windowSums index
    some (min valley sum)) highest.maximum

/-- The loop over the candidates. After a local maximum the next ten are skipped. It fails when its
rounds run out before the last candidate. -/
def candidateLoop (smoothed windowSums : List ℤ) (highest : Highest) : ℕ → ℤ → ℤ → Option ℤ
  | 0, candidate, state => if candidate < 390 then none else some state
  | rounds + 1, candidate, state =>
    if candidate < 390 then do
      let isMaximum ← localMaximum smoothed candidate
      if isMaximum = false then
        candidateLoop smoothed windowSums highest rounds (candidate + 1) state
      else do
        let height ← read smoothed candidate
        let peak ← read smoothed highest.maximumIndex
        let adjusted := height - quotient peak 150
        let right ← read smoothed (candidate + 10)
        let left ← read smoothed (candidate - 10)
        let sum ← read windowSums candidate
        if right > adjusted ∨ left > adjusted ∨ sum * 100 < highest.maximum * 30 then
          candidateLoop smoothed windowSums highest rounds (candidate + 11) state
        else do
          let valley ← valleyTo windowSums highest candidate
          if valley * 100 > sum * 65 then
            candidateLoop smoothed windowSums highest rounds (candidate + 11) state
          else if valley * 100 ≤ highest.maximum * 40 then some 2
          else candidateLoop smoothed windowSums highest rounds (candidate + 11) state
    else some state

/-- Two distant halves of comparable height. -/
def balancedState (windowSums : List ℤ) : Option ℤ := do
  let highIndex ← highestFrom windowSums 200 (binsFrom 201 389)
  let lowIndex ← highestFrom windowSums 200 (binsFrom 10 199).reverse
  let low ← read windowSums lowIndex
  let high ← read windowSums highIndex
  let ratio ← divide ((low + 1) * 100) (high + 1)
  if highIndex - lowIndex > 160 ∧ ratio ≥ 31 ∧ ratio ≤ 332 then some 1 else some 0

structure Peaks where
  state : ℤ
  peakIndex : ℤ

def analyzeResolutionHistogramPeaks (histogram : List ℤ) : Option Peaks := do
  let raw := histogram.map fun height => shiftRight height 4
  let first ← smoothPass raw emptyBins
  let second ← smoothPass first.temporary first.windowSums
  let smoothed ← extendEdges second.temporary
  let windowSums := second.windowSums
  let highest ← (List.range' 0 400).foldlM (Highest.step windowSums) ⟨0, -1⟩
  let peakIndex ← resolutionHistogramOtsu smoothed
  if highest.maximumIndex < 0 then some ⟨0, peakIndex⟩
  else do
    let balanced ← balancedState windowSums
    let state ← candidateLoop smoothed windowSums highest 400 10 balanced
    some ⟨state, peakIndex⟩

/-! ### Otsu's denominators -/

/-- The prefix weight is a part of the total weight. -/
lemma prefixWeight_bounds {normalized : List ℤ} (filled : Histogram normalized) (index : ℕ) :
    0 ≤ (normalized.take index).sum ∧ (normalized.take index).sum ≤ normalized.sum := by
  have parts := List.sum_take_add_sum_drop normalized index
  have front : 0 ≤ (normalized.take index).sum :=
    List.sum_nonneg fun v mem => filled.entries v (List.mem_of_mem_take mem)
  have back : 0 ≤ (normalized.drop index).sum :=
    List.sum_nonneg fun v mem => filled.entries v (List.mem_of_mem_drop mem)
  omega

/-- The scan knows how much weight it has passed. -/
structure OtsuPrefix (normalized : List ℤ) (index : ℕ) (scan : OtsuScan) : Prop where
  weight : scan.prefixWeight = (normalized.take index).sum
  best : 0 ≤ scan.bestIndex ∧ scan.bestIndex ≤ 399

lemma otsuStep_returns {normalized : List ℤ} (filled : Histogram normalized) (totalIndex : ℤ)
    {index : ℕ} (inside : index < 399) {scan : OtsuScan}
    (passed : OtsuPrefix normalized index scan) :
    Returns (scan.step normalized normalized.sum totalIndex index)
      (OtsuPrefix normalized (index + 1)) := by
  have length : index < normalized.length := by
    rw [filled.length]
    simp only [histogramBins]
    omega
  obtain ⟨low, high⟩ := prefixWeight_bounds filled (index + 1)
  have weight : scan.prefixWeight + normalized.getD index 0 =
      (normalized.take (index + 1)).sum := by
    rw [passed.weight, List.sum_take_succ normalized index length, List.getD_eq_getElem _ _ length]
  have best := passed.best
  unfold OtsuScan.step
  rw [read_eq index (by omega) (by omega), Int.toNat_natCast, Option.bind_eq_bind, Option.bind_some]
  dsimp only
  rw [weight]
  split
  · exact .some ⟨rfl, best⟩
  · rename_i between
    rw [not_or] at between
    refine (returns_divide (by omega)).bind fun below _ => ?_
    refine (returns_divide (by omega)).bind fun above _ => ?_
    split
    · exact .some ⟨rfl, by simp only; omega⟩
    · exact .some ⟨rfl, best⟩

lemma resolutionHistogramOtsu_returns {histogram : List ℤ} (filled : Histogram histogram) :
    Returns (resolutionHistogramOtsu histogram) fun index => 0 ≤ index ∧ index ≤ 399 := by
  unfold resolutionHistogramOtsu
  dsimp only
  have total : 0 ≤ histogram.sum := List.sum_nonneg filled.entries
  split
  · exact .some ⟨by omega, by omega⟩
  · have normalize : ∀ height ∈ histogram, Returns (divide (height * 2 ^ 16) histogram.sum)
        fun weight => 0 ≤ weight := fun height mem =>
      (returns_divide_nonneg (mul_nonneg (filled.entries height mem) (by omega)) (by omega)).mono
        fun weight is => is.2
    refine (Returns.mapM normalize).bind fun normalized is => ?_
    have filled : Histogram normalized := ⟨is.1.trans filled.length, is.2⟩
    refine Returns.bind (P := fun _ => True) (Returns.foldlM (fun sum _ index mem => ?_) trivial)
      fun totalIndex _ => ?_
    · rw [List.mem_range'_1] at mem
      exact (readBin_returns filled (by omega) (by omega)).bind
        fun weight _ => .some trivial
    · have start : OtsuPrefix normalized 0 ⟨0, 0, -1, 399⟩ := ⟨rfl, by simp⟩
      refine (Returns.count 0 399 (fun index _ high scan passed =>
        otsuStep_returns filled totalIndex (by omega) passed) start).bind fun scan passed => ?_
      exact .some passed.best

/-! ### The arrays of the peak analysis -/

lemma windowSum_returns {smoothed : List ℤ} (filled : Histogram smoothed) {index : ℕ}
    (low : 10 ≤ index) (high : index < 390) :
    Returns (windowSum smoothed index) fun sum => 0 ≤ sum := by
  refine Returns.foldlM (fun sum nonneg offset mem => ?_) le_rfl
  rw [List.mem_range'_1] at mem
  refine (readBin_returns filled (by omega) (by omega)).bind fun height taller => ?_
  exact .some (add_nonneg nonneg taller)

structure Smoothed (smoothing : Smoothing) : Prop where
  temporary : Histogram smoothing.temporary
  windowSums : Histogram smoothing.windowSums

lemma smoothPass_returns {smoothed windowSums : List ℤ} (filled : Histogram smoothed)
    (sums : Histogram windowSums) : Returns (smoothPass smoothed windowSums) Smoothed := by
  have start : Smoothed ⟨smoothed, windowSums⟩ := ⟨filled, sums⟩
  refine Returns.foldlM (fun smoothing done index mem => ?_) start
  rw [List.mem_range'_1] at mem
  refine (windowSum_returns filled (by omega) (by omega)).bind fun sum nonneg => ?_
  refine (writeBin_returns done.windowSums (by omega) (by omega) nonneg).bind
    fun windowSums sums => ?_
  refine (returns_divide_nonneg (by omega) (by omega)).bind fun mean is => ?_
  refine (writeBin_returns done.temporary (by omega) (by omega) is.2).bind
    fun temporary kept => ?_
  exact .some ⟨kept, sums⟩

/-- Copying one entry into a range of entries. -/
lemma repeatEntry_returns {smoothed : List ℤ} (filled : Histogram smoothed) {source : ℤ}
    (low : 0 ≤ source) (high : source < 400) {first steps : ℕ} (inside : first + steps ≤ 400) :
    Returns ((List.range' first steps).foldlM (fun (smoothed : List ℤ) (index : ℕ) => do
      let edge ← read smoothed source
      write smoothed index edge) smoothed) Histogram := by
  refine Returns.foldlM (fun smoothed filled index mem => ?_) filled
  rw [List.mem_range'_1] at mem
  refine (filled.read low high).bind fun edge nonneg => ?_
  exact writeBin_returns filled (by omega) (by omega) nonneg

lemma extendEdges_returns {smoothed : List ℤ} (filled : Histogram smoothed) :
    Returns (extendEdges smoothed) Histogram :=
  (repeatEntry_returns filled (by omega) (by omega) (by omega)).bind fun _ filled =>
    repeatEntry_returns filled (by omega) (by omega) (by omega)

/-! ### The candidates -/

lemma highest_returns {windowSums : List ℤ} (sums : Histogram windowSums) :
    Returns ((List.range' 0 400).foldlM (Highest.step windowSums) ⟨0, -1⟩)
      fun highest => highest.maximumIndex < 400 := by
  have start : (⟨0, -1⟩ : Highest).maximumIndex < 400 := by decide
  refine Returns.foldlM (fun highest inside index mem => ?_) start
  rw [List.mem_range'_1] at mem
  refine (readBin_returns sums (by omega) (by omega)).bind fun sum _ => ?_
  split
  · exact .some (by simp only; omega)
  · exact .some inside

lemma highestFrom_returns {windowSums : List ℤ} (sums : Histogram windowSums) {indices : List ℤ}
    (inside : ∀ index ∈ indices, 10 ≤ index ∧ index < 390) :
    Returns (highestFrom windowSums 200 indices) fun best => 10 ≤ best ∧ best < 390 := by
  have start : 10 ≤ (200 : ℤ) ∧ (200 : ℤ) < 390 := by omega
  refine Returns.foldlM (fun best held index mem => ?_) start
  have here := inside index mem
  refine (readBin_returns sums (by omega) (by omega)).bind fun sum _ => ?_
  refine (readBin_returns sums (by omega) (by omega)).bind fun bestSum _ => ?_
  split
  · exact .some here
  · exact .some held

lemma balancedState_returns {windowSums : List ℤ} (sums : Histogram windowSums) :
    Returns (balancedState windowSums) fun _ => True := by
  refine (highestFrom_returns sums fun index mem => ?_).bind fun highIndex high => ?_
  · rw [mem_binsFrom] at mem
    omega
  refine (highestFrom_returns sums fun index mem => ?_).bind fun lowIndex low => ?_
  · rw [List.mem_reverse, mem_binsFrom] at mem
    omega
  refine (readBin_returns sums (by omega) (by omega)).bind fun lowSum _ => ?_
  refine (readBin_returns sums (by omega) (by omega)).bind fun highSum nonneg => ?_
  refine (returns_divide (by omega)).bind fun ratio _ => ?_
  split
  · exact .some trivial
  · exact .some trivial

lemma neighborOffsets_near : ∀ offset ∈ neighborOffsets, -10 ≤ offset ∧ offset ≤ 10 := by decide

lemma localMaximum_returns {smoothed : List ℤ} (filled : Histogram smoothed) {candidate : ℤ}
    (low : 10 ≤ candidate) (high : candidate < 390) :
    Returns (localMaximum smoothed candidate) fun _ => True := by
  refine Returns.allM fun offset mem => ?_
  have near := neighborOffsets_near offset mem
  refine (readBin_returns filled (by omega) (by omega)).bind fun neighbor _ => ?_
  exact (readBin_returns filled (by omega) (by omega)).bind fun _ _ => .some trivial

lemma valleyTo_returns {windowSums : List ℤ} (sums : Histogram windowSums) {highest : Highest}
    (first : 0 ≤ highest.maximumIndex) (last : highest.maximumIndex < 400) {candidate : ℤ}
    (low : 10 ≤ candidate) (high : candidate < 390) :
    Returns (valleyTo windowSums highest candidate) fun _ => True := by
  refine Returns.foldlM (fun valley _ index mem => ?_) trivial
  have inside : 0 ≤ index ∧ index < 400 := by
    split at mem
    · rw [mem_binsFrom] at mem
      omega
    · rw [mem_binsFrom] at mem
      omega
  exact (sums.read inside.1 inside.2).bind fun sum _ => .some trivial

/-- The loop stays ten bins away from both ends, and its rounds are enough. -/
lemma candidateLoop_returns {smoothed windowSums : List ℤ} (filled : Histogram smoothed)
    (sums : Histogram windowSums) {highest : Highest} (first : 0 ≤ highest.maximumIndex)
    (last : highest.maximumIndex < 400) (rounds : ℕ) {candidate : ℤ} (low : 10 ≤ candidate)
    (enough : 390 - candidate ≤ rounds) (state : ℤ) :
    Returns (candidateLoop smoothed windowSums highest rounds candidate state) fun _ => True := by
  induction rounds generalizing candidate with
  | zero =>
    rw [candidateLoop, if_neg (by omega)]
    exact .some trivial
  | succ rounds ih =>
    unfold candidateLoop
    split
    swap
    · exact .some trivial
    rename_i high
    refine (localMaximum_returns filled low high).bind fun isMaximum _ => ?_
    split
    · exact ih (by omega) (by omega)
    refine (readBin_returns filled (by omega) (by omega)).bind fun height _ => ?_
    refine (filled.read first last).bind fun peak _ => ?_
    refine (readBin_returns filled (by omega) (by omega)).bind fun right _ => ?_
    refine (readBin_returns filled (by omega) (by omega)).bind fun left _ => ?_
    refine (readBin_returns sums (by omega) (by omega)).bind fun sum _ => ?_
    split
    · exact ih (by omega) (by omega)
    refine (valleyTo_returns sums first last low high).bind fun valley _ => ?_
    split
    · exact ih (by omega) (by omega)
    · split
      · exact .some trivial
      · exact ih (by omega) (by omega)

/-- The whole peak analysis returns, with a peak among the bins. -/
lemma analyzeResolutionHistogramPeaks_returns {histogram : List ℤ} (filled : Histogram histogram) :
    Returns (analyzeResolutionHistogramPeaks histogram) fun peaks =>
      0 ≤ peaks.peakIndex ∧ peaks.peakIndex ≤ 399 := by
  have raw : Histogram (histogram.map fun height => shiftRight height 4) :=
    filled.map fun height nonneg => Int.ediv_nonneg nonneg (by decide)
  refine (smoothPass_returns raw histogram_empty).bind fun first firstDone => ?_
  refine (smoothPass_returns firstDone.temporary firstDone.windowSums).bind
    fun second secondDone => ?_
  refine (extendEdges_returns secondDone.temporary).bind fun smoothed filled => ?_
  refine (highest_returns secondDone.windowSums).bind fun highest last => ?_
  refine (resolutionHistogramOtsu_returns filled).bind fun peakIndex peak => ?_
  split
  · exact .some peak
  · refine (balancedState_returns secondDone.windowSums).bind fun balanced _ => ?_
    refine (candidateLoop_returns filled secondDone.windowSums (by omega) last 400 (by omega)
      (by omega) balanced).bind fun state _ => ?_
    exact .some peak

end GoodixSpi.Chicago
