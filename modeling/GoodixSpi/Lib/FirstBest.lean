import Mathlib.Order.Lattice
import Mathlib.Data.List.Basic
import Mathlib.Tactic.Lemma

/-! A scan that keeps the first of the best items it has met, and may end before the list does
once it holds one that is good enough. -/

namespace FirstBest

universe u v

variable {Item : Type u} {Rank : Type v} [LinearOrder Rank] (rank : Item → Rank)

/-- The first of the items of the highest rank. -/
def Wins (items : List Item) (winner : Item) : Prop :=
  ∃ before after, items = before ++ winner :: after ∧
    (∀ item ∈ before, rank item < rank winner) ∧ ∀ item ∈ after, rank item ≤ rank winner

/-- The winner, if there are items at all. -/
def Best (items : List Item) : Option Item → Prop
  | none => items = []
  | some winner => Wins rank items winner

/-- Ties go to the item that is held. -/
def keep (best : Option Item) (item : Item) : Option Item :=
  match best with
  | none => some item
  | some held => if rank held < rank item then some item else some held

variable (eligible : Item → Bool) (enough : Item → Bool)

def consider (best : Option Item) (item : Item) : Option Item :=
  if eligible item then keep rank best item else best

def scan : List Item → Option Item → Option Item
  | [], best => best
  | item :: rest, best =>
    let next := consider rank eligible best item
    if next.any enough then next else scan rest next

variable {rank} {eligible enough} {items seen : List Item} {best : Option Item} {item : Item}

@[simp] lemma keep_none : keep rank none item = some item := rfl

@[simp] lemma keep_some (held : Item) :
    keep rank (some held) item = if rank held < rank item then some item else some held := rfl

lemma Wins.mem {winner : Item} (wins : Wins rank items winner) : winner ∈ items := by
  obtain ⟨before, after, rfl, -, -⟩ := wins
  exact List.mem_append_right before List.mem_cons_self

lemma Wins.le {winner : Item} (wins : Wins rank items winner) (listed : item ∈ items) :
    rank item ≤ rank winner := by
  obtain ⟨before, after, rfl, earlier, later⟩ := wins
  rcases List.mem_append.mp listed with first | rest
  · exact (earlier item first).le
  · rcases List.mem_cons.mp rest with rfl | behind
    · exact le_rfl
    · exact later item behind

/-- The winner of the eligible items among all of them. -/
lemma Wins.of_filter {winner : Item} (wins : Wins rank (items.filter eligible) winner) :
    ∃ before after, items = before ++ winner :: after ∧ eligible winner = true ∧
      (∀ item ∈ before, eligible item = true → rank item < rank winner) ∧
      ∀ item ∈ after, eligible item = true → rank item ≤ rank winner := by
  obtain ⟨kept, others, split, earlier, later⟩ := wins
  obtain ⟨first, rest, rfl, rfl, tail⟩ := List.filter_eq_append_iff.mp split
  obtain ⟨skipped, after, rfl, refused, fits, rfl⟩ := List.filter_eq_cons_iff.mp tail
  refine ⟨first ++ skipped, after, by rw [List.append_assoc], fits, fun item listed able => ?_,
    fun item listed able => later item (List.mem_filter.mpr ⟨listed, able⟩)⟩
  rcases List.mem_append.mp listed with here | there
  · exact earlier item (List.mem_filter.mpr ⟨here, able⟩)
  · exact absurd able (refused item there)

lemma Wins.keep {winner : Item} (wins : Wins rank items winner) (item : Item) :
    Best rank (items ++ [item]) (keep rank (some winner) item) := by
  rw [keep_some]
  split
  · next higher =>
    exact ⟨items, [], rfl, fun other listed => (wins.le listed).trans_lt higher, by simp⟩
  · next higher =>
    obtain ⟨before, after, rfl, earlier, later⟩ := wins
    refine ⟨before, after ++ [item], by simp, earlier, fun other listed => ?_⟩
    rcases List.mem_append.mp listed with behind | last
    · exact later other behind
    · rw [List.mem_singleton.mp last]
      exact not_lt.mp higher

lemma Best.consider (held : Best rank (seen.filter eligible) best) (item : Item) :
    Best rank ((seen ++ [item]).filter eligible) (consider rank eligible best item) := by
  rw [List.filter_append]
  by_cases fits : eligible item = true
  · rw [FirstBest.consider, if_pos fits, List.filter_cons_of_pos fits, List.filter_nil]
    cases best with
    | none =>
      have empty : seen.filter eligible = [] := held
      rw [empty]
      exact ⟨[], [], rfl, by simp, by simp⟩
    | some winner => exact Wins.keep held item
  · rw [FirstBest.consider, if_neg fits, List.filter_cons_of_neg fits, List.filter_nil,
      List.append_nil]
    exact held

/-- The scan holds the best of the eligible items that it examined, and it examined all of them
unless it ended on one that is good enough. -/
theorem scan_spec (held : Best rank (seen.filter eligible) best) (items : List Item) :
    ∃ examined later, items = examined ++ later ∧
      Best rank ((seen ++ examined).filter eligible) (scan rank eligible enough items best) ∧
      (later = [] ∨ (scan rank eligible enough items best).any enough = true) := by
  induction items generalizing seen best with
  | nil => exact ⟨[], [], rfl, by rwa [List.append_nil], .inl rfl⟩
  | cons item rest ih =>
    have next := held.consider item
    simp only [scan]
    split
    · next ended => exact ⟨[item], rest, rfl, next, .inr ended⟩
    · obtain ⟨examined, later, rfl, best, ended⟩ := ih next
      rw [List.append_assoc, List.singleton_append] at best
      exact ⟨item :: examined, later, rfl, best, ended⟩

/-- The same from the start. -/
theorem scan_best (items : List Item) :
    ∃ examined later, items = examined ++ later ∧
      Best rank (examined.filter eligible) (scan rank eligible enough items none) ∧
      (later = [] ∨ (scan rank eligible enough items none).any enough = true) :=
  @scan_spec _ _ _ rank eligible enough [] none rfl items

end FirstBest
