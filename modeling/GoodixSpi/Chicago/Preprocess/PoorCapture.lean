import GoodixSpi.Chicago.Preprocess.Envelope
import GoodixSpi.Lib.Tally

/-! When a capture is too poor to use. Two tails of the histogram of contrasts decide, once a fifth
of the image is flat. -/

namespace GoodixSpi.Chicago

/-! ### `candidate_reject_stats_is_poor_capture` -/

/-- The first bin, from below, where more than 30 percent are reached. -/
def lowerTail (histogram : List ℕ) : ℕ :=
  (Tally.crossing (fun cumulative => cumulative * 100 > histogram.sum * 30) 0 0 histogram).getD
    (rejectHistogramBins - 1)

/-- The first bin, from above, where more than a tenth is reached. -/
def upperTail (histogram : List ℕ) : ℕ :=
  ((Tally.crossing (fun cumulative => cumulative > histogram.sum / 10) 0 0 histogram.reverse).map
    fun index => rejectHistogramBins - 1 - index).getD 0

def candidateRejectStatsIsPoorCapture (stats : CandidateRejectStats) : Bool :=
  if !stats.active then false
  else if stats.histogram.sum = 0 then false
  else
    let lower := lowerTail stats.histogram
    let upper := upperTail stats.histogram
    let highest := stats.histogram.getD (rejectHistogramBins - 1) 0
    if lower < 20 then true
    else if upper > lower * 3 ∧ lower < 40 then true
    else highest > stats.histogram.sum / 4 && lower < 60

/-! ### The histogram -/

section Histogram

variable (mask : Vector UInt8 pixels) (refined : Plane × Plane)

def enabledPixels : List (Fin pixels) :=
  (List.finRange pixels).filter fun pixel => mask.get pixel != 0

/-- The bin of a pixel. -/
def contrastBin (pixel : Fin pixels) : ℕ :=
  min (unsignedRange refined pixel).toNat (rejectHistogramBins - 1)

def flatPixels : ℕ :=
  (enabledPixels mask).countP fun pixel => unsignedRange refined pixel < rejectFlatRange

def contrasts : List ℕ :=
  Tally.tally (contrastBin refined) rejectHistogramBins (enabledPixels mask)

/-- How many enabled pixels have a contrast below a bin. -/
def contrastBelow (bin : ℕ) : ℕ :=
  (enabledPixels mask).countP fun pixel => contrastBin refined pixel < bin

variable {mask refined}

lemma contrastBin_lt (pixel : Fin pixels) : contrastBin refined pixel < rejectHistogramBins := by
  unfold contrastBin rejectHistogramBins
  omega

lemma length_contrasts : (contrasts mask refined).length = rejectHistogramBins := by
  rw [contrasts, Tally.tally_eq, List.length_map, List.length_range]

lemma sum_contrasts : (contrasts mask refined).sum = (enabledPixels mask).length :=
  Tally.sum_tally fun pixel _ => contrastBin_lt pixel

lemma sum_take_contrasts {bin : ℕ} (inside : bin ≤ rejectHistogramBins) :
    ((contrasts mask refined).take bin).sum = contrastBelow mask refined bin :=
  Tally.sum_take_tally _ inside

/-- A running sum from above. -/
lemma sum_take_reverse {bin : ℕ} (inside : bin < rejectHistogramBins) :
    ((contrasts mask refined).reverse.take (bin + 1)).sum = (enabledPixels mask).length -
      contrastBelow mask refined (rejectHistogramBins - 1 - bin) := by
  have whole := List.sum_take_add_sum_drop (contrasts mask refined)
    (rejectHistogramBins - 1 - bin)
  rw [sum_contrasts, sum_take_contrasts (by omega)] at whole
  rw [List.take_reverse, List.sum_reverse, length_contrasts,
    show rejectHistogramBins - (bin + 1) = rejectHistogramBins - 1 - bin by omega]
  omega

lemma getD_contrasts_last : (contrasts mask refined).getD (rejectHistogramBins - 1) 0 =
    (enabledPixels mask).length - contrastBelow mask refined (rejectHistogramBins - 1) := by
  have whole := List.sum_take_add_sum_drop (contrasts mask refined) (rejectHistogramBins - 1)
  have listed : rejectHistogramBins - 1 < (contrasts mask refined).length := by
    rw [length_contrasts]
    decide
  rw [sum_contrasts, sum_take_contrasts (by decide), List.drop_eq_getElem_cons listed,
    List.sum_cons, List.drop_eq_nil_of_le (by rw [length_contrasts]; decide), List.sum_nil] at whole
  rw [List.getD_eq_getElem _ _ listed]
  omega

lemma candidateRejectStats_flat (flat : pixels / 5 < flatPixels mask refined) :
    candidateRejectStats mask refined =
      ⟨true, flatPixels mask refined, contrasts mask refined⟩ := by
  unfold candidateRejectStats
  exact if_pos flat

lemma candidateRejectStats_uneven (uneven : ¬pixels / 5 < flatPixels mask refined) :
    (candidateRejectStats mask refined).active = false := by
  unfold candidateRejectStats
  exact congrArg CandidateRejectStats.active (if_neg uneven)

/-! ### The two tails -/

lemma lowerTail_isLeast (some_ : 0 < (enabledPixels mask).length) :
    IsLeast {bin | (enabledPixels mask).length * 30 < contrastBelow mask refined (bin + 1) * 100}
      (lowerTail (contrasts mask refined)) := by
  unfold lowerTail
  cases crossed : Tally.crossing (fun cumulative => cumulative * 100 >
      (contrasts mask refined).sum * 30) 0 0 (contrasts mask refined) with
  | some bin =>
    obtain ⟨inside, reached, before⟩ := Tally.crossing_some crossed
    rw [length_contrasts] at inside
    rw [sum_take_contrasts inside, sum_contrasts, Nat.zero_add, decide_eq_true_eq] at reached
    rw [Option.getD_some]
    refine ⟨reached, fun bin counted => Nat.le_of_not_lt fun less => ?_⟩
    have not := before bin less
    rw [sum_take_contrasts (less.trans inside), sum_contrasts, Nat.zero_add,
      decide_eq_false_iff_not] at not
    exact not counted
  | none =>
    -- the last bin would have everything
    have last := Tally.crossing_none crossed (rejectHistogramBins - 1)
      (by rw [length_contrasts]; decide)
    rw [List.take_of_length_le (by rw [length_contrasts]; decide), sum_contrasts, Nat.zero_add,
      decide_eq_false_iff_not] at last
    omega

lemma upperTail_isGreatest (some_ : 0 < (enabledPixels mask).length) :
    IsGreatest {bin | bin < rejectHistogramBins ∧ (enabledPixels mask).length / 10 <
        (enabledPixels mask).length - contrastBelow mask refined bin}
      (upperTail (contrasts mask refined)) := by
  unfold upperTail
  cases crossed : Tally.crossing (fun cumulative => cumulative >
      (contrasts mask refined).sum / 10) 0 0 (contrasts mask refined).reverse with
  | some index =>
    obtain ⟨inside, reached, before⟩ := Tally.crossing_some crossed
    rw [List.length_reverse, length_contrasts] at inside
    rw [sum_take_reverse inside, sum_contrasts, Nat.zero_add, decide_eq_true_eq] at reached
    rw [Option.map_some, Option.getD_some]
    refine ⟨⟨by omega, reached⟩, fun bin counted => Nat.le_of_not_lt fun less => ?_⟩
    have room := counted.1
    have not := before (rejectHistogramBins - 1 - bin) (by omega)
    rw [sum_take_reverse (by omega), sum_contrasts, Nat.zero_add, decide_eq_false_iff_not,
      show rejectHistogramBins - 1 - (rejectHistogramBins - 1 - bin) = bin by omega] at not
    exact not counted.2
  | none =>
    -- from the first bin on it would be everything
    have last := Tally.crossing_none crossed (rejectHistogramBins - 1)
      (by rw [List.length_reverse, length_contrasts]; decide)
    rw [sum_take_reverse (by decide), sum_contrasts, Nat.sub_self, Nat.zero_add,
      decide_eq_false_iff_not] at last
    have none_ : contrastBelow mask refined 0 = 0 :=
      List.countP_eq_zero.mpr fun pixel _ below => absurd (of_decide_eq_true below) (by omega)
    omega

/-- A capture is too poor exactly where more than a fifth of the image is flat and, of the enabled
pixels, more than 30 percent have a contrast below 20, or below 40 with the highest tenth more than
three times as high, or below 60 with more than a quarter at the top. -/
theorem poor_capture_iff (mask : Vector UInt8 pixels) (refined : Plane × Plane) :
    candidateRejectStatsIsPoorCapture (candidateRejectStats mask refined) = true ↔
      pixels / 5 < flatPixels mask refined ∧ ∃ lower upper,
        IsLeast {bin | (enabledPixels mask).length * 30 <
          contrastBelow mask refined (bin + 1) * 100} lower ∧
        IsGreatest {bin | bin < rejectHistogramBins ∧ (enabledPixels mask).length / 10 <
          (enabledPixels mask).length - contrastBelow mask refined bin} upper ∧
        (lower < 20 ∨ (lower * 3 < upper ∧ lower < 40) ∨
          ((enabledPixels mask).length / 4 < (enabledPixels mask).length -
            contrastBelow mask refined (rejectHistogramBins - 1) ∧ lower < 60)) := by
  by_cases flat : pixels / 5 < flatPixels mask refined
  · have some_ : 0 < (enabledPixels mask).length :=
      (Nat.zero_lt_of_lt flat).trans_le List.countP_le_length
    have low := @lowerTail_isLeast mask refined some_
    have high := @upperTail_isGreatest mask refined some_
    have verdict : candidateRejectStatsIsPoorCapture (candidateRejectStats mask refined) = true ↔
        lowerTail (contrasts mask refined) < 20 ∨
          (lowerTail (contrasts mask refined) * 3 < upperTail (contrasts mask refined) ∧
            lowerTail (contrasts mask refined) < 40) ∨
          ((enabledPixels mask).length / 4 < (enabledPixels mask).length -
              contrastBelow mask refined (rejectHistogramBins - 1) ∧
            lowerTail (contrasts mask refined) < 60) := by
      rw [candidateRejectStats_flat flat, candidateRejectStatsIsPoorCapture]
      dsimp only
      rw [sum_contrasts, getD_contrasts_last, if_neg (by decide), if_neg some_.ne']
      split
      · next small => exact iff_of_true rfl (.inl small)
      · next large =>
        split
        · next spread => exact iff_of_true rfl (.inr (.inl spread))
        · next close =>
          rw [Bool.and_eq_true, decide_eq_true_eq, decide_eq_true_eq]
          exact ⟨fun top => .inr (.inr top),
            fun holds => (holds.resolve_left large).resolve_left close⟩
    rw [verdict]
    constructor
    · exact fun holds => ⟨flat, _, _, low, high, holds⟩
    · rintro ⟨-, lower, upper, isLow, isHigh, holds⟩
      rwa [isLow.unique low, isHigh.unique high] at holds
  · constructor
    · intro poor
      rw [candidateRejectStatsIsPoorCapture, candidateRejectStats_uneven flat] at poor
      cases poor
    · exact fun holds => absurd holds.1 flat

end Histogram

end GoodixSpi.Chicago
