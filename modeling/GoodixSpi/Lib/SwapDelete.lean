import Mathlib.Data.List.Basic
import Mathlib.Tactic.Ring

/-! Deletion in place. A refused entry gives its place to the last entry of the list, which then
ends one entry earlier; the entry that arrives is examined in its turn. -/

namespace SwapDelete

variable {α β : Type} (refused : α → Bool) (blank : α)

/-- The loop over the places from `index` to `count`. A place freed at the end is blanked. -/
def compact (items : List α) (index count : ℕ) : List α × ℕ :=
  if index < count then
    if refused (items.getD index blank) then
      let moved :=
        if index ≠ count - 1 then items.set index (items.getD (count - 1) blank) else items
      compact (moved.set (count - 1) blank) index (count - 1)
    else compact items (index + 1) count
  else (items, count)
termination_by count - index

/-- The entries that stay are those of `items`; each refused one is replaced by the next of
`fresh`. -/
def fill : List α → List α → List α
  | [], _ => []
  | item :: rest, [] => if refused item then fill rest [] else item :: fill rest []
  | item :: rest, first :: later =>
    if refused item then first :: fill rest later else item :: fill rest (first :: later)

/-- How many entries survive. -/
def survivors (items : List α) : ℕ := items.countP fun item => !refused item

/-- The refused entries that stand where a survivor will. -/
def holes (items : List α) : List α := (items.take (survivors refused items)).filter refused

/-- The survivors that have to move, the last one first. -/
def fillers (items : List α) : List α :=
  ((items.drop (survivors refused items)).filter fun item => !refused item).reverse

def packed (items : List α) : List α :=
  fill refused (items.take (survivors refused items)) (fillers refused items)

variable {refused blank}

lemma survivors_le (items : List α) : survivors refused items ≤ items.length :=
  List.countP_le_length

lemma survivors_cons_of_kept {item : α} (kept : refused item = false) (rest : List α) :
    survivors refused (item :: rest) = survivors refused rest + 1 := by
  simp [survivors, kept]

lemma survivors_cons_of_refused {item : α} (gone : refused item = true) (rest : List α) :
    survivors refused (item :: rest) = survivors refused rest := by
  simp [survivors, gone]

lemma survivors_append_singleton (items : List α) (last : α) :
    survivors refused (items ++ [last]) = survivors refused items +
      if refused last then 0 else 1 := by
  cases kept : refused last <;> simp [survivors, List.countP_append, kept]

lemma fill_nil (fresh : List α) : fill refused [] fresh = [] := rfl

lemma fill_cons_of_kept {item : α} (kept : refused item = false) (rest fresh : List α) :
    fill refused (item :: rest) fresh = item :: fill refused rest fresh := by
  have stays : ¬refused item = true := by simp [kept]
  cases fresh with
  | nil => exact if_neg stays
  | cons first later => exact if_neg stays

lemma fill_cons_of_refused {item : α} (gone : refused item = true) (rest : List α) (first : α)
    (later : List α) :
    fill refused (item :: rest) (first :: later) = first :: fill refused rest later :=
  if_pos gone

lemma fill_cons_of_nothing {item : α} (gone : refused item = true) (rest : List α) :
    fill refused (item :: rest) [] = fill refused rest [] :=
  if_pos gone

/-- It does not matter which refused entry is replaced. -/
lemma fill_cons_congr {item other : α} (gone : refused item = true)
    (goneToo : refused other = true) (rest fresh : List α) :
    fill refused (item :: rest) fresh = fill refused (other :: rest) fresh := by
  cases fresh with
  | nil => rw [fill_cons_of_nothing gone, fill_cons_of_nothing goneToo]
  | cons first later => rw [fill_cons_of_refused gone, fill_cons_of_refused goneToo]

lemma packed_cons_of_kept {item : α} (kept : refused item = false) (rest : List α) :
    packed refused (item :: rest) = item :: packed refused rest := by
  simp only [packed, fillers, survivors_cons_of_kept kept, List.take_succ_cons,
    List.drop_succ_cons, fill_cons_of_kept kept]

lemma packed_singleton_of_refused {item : α} (gone : refused item = true) :
    packed refused [item] = [] := by
  simp [packed, survivors, gone, fill_nil]

/-- A refused entry and the last one, which takes its place. -/
lemma packed_rotate {item : α} (gone : refused item = true) (middle : List α) (last : α) :
    packed refused (item :: (middle ++ [last])) = packed refused (last :: middle) := by
  have room : survivors refused middle ≤ middle.length := survivors_le middle
  cases kept : refused last with
  | false =>
    have same : survivors refused (item :: (middle ++ [last])) = survivors refused middle + 1 := by
      rw [survivors_cons_of_refused gone, survivors_append_singleton, kept]
      rfl
    rw [packed_cons_of_kept kept, packed, fillers, same, List.take_succ_cons, List.drop_succ_cons,
      List.take_append_of_le_length room, List.drop_append_of_le_length room, List.filter_append,
      List.reverse_append]
    simp only [List.filter_cons, kept, Bool.not_false, if_true, List.filter_nil,
      List.reverse_singleton, List.singleton_append, fill_cons_of_refused gone]
    rfl
  | true =>
    have same : survivors refused (item :: (middle ++ [last])) = survivors refused middle := by
      rw [survivors_cons_of_refused gone, survivors_append_singleton, kept]
      rfl
    have less : survivors refused (last :: middle) = survivors refused middle :=
      survivors_cons_of_refused kept middle
    simp only [packed, fillers, same, less]
    cases count : survivors refused middle with
    | zero => rw [List.take_zero, List.take_zero, fill_nil, fill_nil]
    | succ count =>
      rw [List.take_succ_cons, List.drop_succ_cons, List.take_succ_cons, List.drop_succ_cons,
        List.take_append_of_le_length (by omega), List.drop_append_of_le_length (by omega),
        List.filter_append]
      simp only [List.filter_cons, kept, Bool.not_true, if_false, List.filter_nil,
        List.append_nil, Bool.false_eq_true]
      exact fill_cons_congr gone kept _ _

lemma getD_append_length (before after : List α) (item : α) :
    (before ++ item :: after).getD before.length blank = item := by
  simp

lemma set_append_length (before after : List α) (item other : α) :
    (before ++ item :: after).set before.length other = before ++ other :: after := by
  simp

lemma compact_eq (items : List α) (index count : ℕ) :
    compact refused blank items index count =
      if index < count then
        if refused (items.getD index blank) then
          let moved :=
            if index ≠ count - 1 then items.set index (items.getD (count - 1) blank) else items
          compact refused blank (moved.set (count - 1) blank) index (count - 1)
        else compact refused blank items (index + 1) count
      else (items, count) := by
  rw [compact]

lemma compact_done (items : List α) (index : ℕ) :
    compact refused blank items index index = (items, index) := by
  rw [compact_eq, if_neg (lt_irrefl index)]

lemma compact_kept {before after : List α} {item : α} {count : ℕ} (kept : refused item = false)
    (inside : before.length < count) :
    compact refused blank (before ++ item :: after) before.length count =
      compact refused blank (before ++ [item] ++ after) (before ++ [item]).length count := by
  rw [compact_eq, if_pos inside, getD_append_length, kept, if_neg Bool.false_ne_true]
  simp

lemma compact_refused_last {before after : List α} {item : α} (gone : refused item = true) :
    compact refused blank (before ++ item :: after) before.length (before.length + 1) =
      (before ++ blank :: after, before.length) := by
  rw [compact_eq, if_pos (Nat.lt_succ_self _), getD_append_length, gone, if_pos rfl]
  simp [compact_done]

lemma compact_refused {before middle after : List α} {item last : α}
    (gone : refused item = true) :
    compact refused blank (before ++ item :: (middle ++ last :: after)) before.length
        (before.length + (middle.length + 2)) =
      compact refused blank (before ++ last :: (middle ++ blank :: after)) before.length
        (before.length + (middle.length + 1)) := by
  have place : before.length + (middle.length + 2) - 1 = before.length + (middle.length + 1) := by
    omega
  have fetch : (before ++ item :: (middle ++ last :: after)).getD
      (before.length + (middle.length + 1)) blank = last := by simp
  have clear : (before ++ last :: (middle ++ last :: after)).set
      (before.length + (middle.length + 1)) blank =
        before ++ last :: (middle ++ blank :: after) := by
    simp
  rw [compact_eq, if_pos (by omega), getD_append_length, gone, if_pos rfl, place, if_pos (by omega),
    fetch, set_append_length]
  dsimp only
  rw [clear]

/-- The whole loop: the survivors in front, what is left blank. -/
theorem compact_append (segment before after : List α) :
    compact refused blank (before ++ segment ++ after) before.length
        (before.length + segment.length) =
      (before ++ packed refused segment ++
        List.replicate (segment.length - survivors refused segment) blank ++ after,
        before.length + survivors refused segment) := by
  induction size : segment.length generalizing segment before after with
  | zero =>
    rw [List.eq_nil_of_length_eq_zero size]
    simp [compact_done, packed, survivors, fill_nil]
  | succ size ih =>
    obtain ⟨item, rest, rfl⟩ := List.exists_cons_of_length_eq_add_one size
    rw [List.length_cons, Nat.add_right_cancel_iff] at size
    rw [List.append_assoc, List.cons_append]
    cases gone : refused item with
    | false =>
      rw [compact_kept gone (by omega), ← List.append_assoc]
      have next := ih rest (before ++ [item]) after size
      rw [List.length_append, List.length_singleton] at next
      rw [List.length_append, List.length_singleton, ← Nat.add_assoc, Nat.add_right_comm, next,
        packed_cons_of_kept gone, survivors_cons_of_kept gone, Nat.add_sub_add_right]
      simp [Nat.add_assoc, Nat.add_comm]
    | true =>
      rcases List.eq_nil_or_concat rest with rfl | ⟨middle, last, rfl⟩
      · subst size
        rw [List.nil_append, List.length_nil, compact_refused_last gone,
          packed_singleton_of_refused gone]
        simp [survivors, gone]
      · rw [List.concat_eq_append] at size ⊢
        rw [List.length_append, List.length_singleton] at size
        subst size
        have next := ih (last :: middle) before (blank :: after) rfl
        rw [List.append_assoc, List.cons_append] at next
        rw [List.append_assoc, List.singleton_append, Nat.add_assoc, compact_refused gone, next,
          packed_rotate gone]
        have same : survivors refused (item :: (middle ++ [last])) =
            survivors refused (last :: middle) := by
          rw [survivors_cons_of_refused gone, survivors_append_singleton]
          cases kept : refused last
          · rw [survivors_cons_of_kept kept, if_neg Bool.false_ne_true]
          · rw [survivors_cons_of_refused kept, if_pos rfl, Nat.add_zero]
        have fewer : survivors refused (last :: middle) ≤ middle.length + 1 := survivors_le _
        rw [same, show middle.length + 1 + 1 - survivors refused (last :: middle) =
          middle.length + 1 - survivors refused (last :: middle) + 1 by omega,
          List.replicate_succ']
        simp

/-! ### What a hole is filled with -/

lemma length_holes (items : List α) :
    (holes refused items).length = (fillers refused items).length := by
  have split : (items.take (survivors refused items)).countP (fun item => !refused item) +
      (items.drop (survivors refused items)).countP (fun item => !refused item) =
      survivors refused items := by
    rw [← List.countP_append, List.take_append_drop]
    rfl
  have front := List.length_eq_countP_add_countP refused
    (l := items.take (survivors refused items))
  rw [List.length_take_of_le (survivors_le items)] at front
  simp only [holes, fillers, List.length_reverse, ← List.countP_eq_length_filter]
  simp only [Bool.not_eq_true, Bool.decide_eq_false] at front
  omega

lemma length_fill {items fresh : List α} (enough : (items.filter refused).length ≤ fresh.length) :
    (fill refused items fresh).length = items.length := by
  induction items generalizing fresh with
  | nil => rfl
  | cons item rest ih =>
    cases gone : refused item with
    | false =>
      rw [fill_cons_of_kept gone, List.length_cons, List.length_cons,
        ih (by simpa [gone] using enough)]
    | true =>
      rw [List.filter_cons_of_pos gone] at enough
      cases fresh with
      | nil => exact absurd enough (by simp)
      | cons first later =>
        rw [fill_cons_of_refused gone, List.length_cons, List.length_cons,
          ih (by simpa using enough)]

/-- A reading of the entries survives the replacement where each newcomer reads as the entry whose
place it takes. -/
lemma map_fill_eq_iff (read : α → β) {items fresh : List α}
    (enough : (items.filter refused).length ≤ fresh.length) :
    (fill refused items fresh).map read = items.map read ↔
      ∀ pair ∈ (items.filter refused).zip fresh, read pair.2 = read pair.1 := by
  induction items generalizing fresh with
  | nil => simp [fill_nil]
  | cons item rest ih =>
    cases gone : refused item with
    | false =>
      rw [fill_cons_of_kept gone, List.map_cons, List.map_cons, List.cons_eq_cons,
        List.filter_cons_of_neg (by rw [gone]; exact Bool.false_ne_true),
        ih (by simpa [gone] using enough)]
      exact and_iff_right rfl
    | true =>
      rw [List.filter_cons_of_pos gone] at enough ⊢
      cases fresh with
      | nil => exact absurd enough (by simp)
      | cons first later =>
        rw [fill_cons_of_refused gone, List.map_cons, List.map_cons, List.cons_eq_cons,
          ih (by simpa using enough), List.zip_cons_cons, List.forall_mem_cons]

lemma length_packed (items : List α) : (packed refused items).length = survivors refused items := by
  rw [packed, length_fill (length_holes items).le, List.length_take_of_le (survivors_le items)]

/-- An array beside the entries that was not compacted still describes them if and only if each
survivor that moved reads as the refused entry it replaced. -/
theorem map_packed_eq_iff (read : α → β) (items : List α) :
    (packed refused items).map read = (items.take (survivors refused items)).map read ↔
      ∀ pair ∈ (holes refused items).zip (fillers refused items), read pair.2 = read pair.1 :=
  map_fill_eq_iff read (length_holes items).le

/-! ### Where the entries come from -/

lemma mem_of_mem_fill {items fresh : List α} {entry : α} (mem : entry ∈ fill refused items fresh) :
    entry ∈ items ∨ entry ∈ fresh := by
  induction items generalizing fresh with
  | nil => cases mem
  | cons item rest ih =>
    cases gone : refused item with
    | false =>
      rw [fill_cons_of_kept gone, List.mem_cons] at mem
      rcases mem with rfl | mem
      · exact Or.inl List.mem_cons_self
      · exact (ih mem).imp_left (List.mem_cons_of_mem item)
    | true =>
      cases fresh with
      | nil =>
        rw [fill_cons_of_nothing gone] at mem
        exact (ih mem).imp_left (List.mem_cons_of_mem item)
      | cons first later =>
        rw [fill_cons_of_refused gone, List.mem_cons] at mem
        rcases mem with rfl | mem
        · exact Or.inr List.mem_cons_self
        · exact (ih mem).imp (List.mem_cons_of_mem item) (List.mem_cons_of_mem first)

lemma mem_of_mem_packed {items : List α} {entry : α} (mem : entry ∈ packed refused items) :
    entry ∈ items := by
  rcases mem_of_mem_fill mem with front | back
  · exact List.mem_of_mem_take front
  · rw [fillers, List.mem_reverse, List.mem_filter] at back
    exact List.mem_of_mem_drop back.1

lemma survivors_map (change : α → α) (same : ∀ item, refused (change item) = refused item)
    (items : List α) : survivors refused (items.map change) = survivors refused items := by
  simp only [survivors, List.countP_map, Function.comp_def, same]

lemma holes_map (change : α → α) (same : ∀ item, refused (change item) = refused item)
    (items : List α) : holes refused (items.map change) = (holes refused items).map change := by
  simp only [holes, survivors_map change same, ← List.map_take, List.filter_map, Function.comp_def,
    same]

lemma fillers_map (change : α → α) (same : ∀ item, refused (change item) = refused item)
    (items : List α) : fillers refused (items.map change) = (fillers refused items).map change := by
  simp only [fillers, survivors_map change same, ← List.map_drop, List.filter_map,
    Function.comp_def, same, List.map_reverse]

/-! ### Which entries there are -/

/-- Newcomers for all holes take their places, and nothing else changes. -/
lemma fill_perm {items fresh : List α} (exact : (items.filter refused).length = fresh.length) :
    (fill refused items fresh).Perm ((items.filter fun item => !refused item) ++ fresh) := by
  induction items generalizing fresh with
  | nil =>
    rw [List.length_eq_zero_iff.mp exact.symm]
    exact .refl _
  | cons item rest ih =>
    cases gone : refused item with
    | false =>
      rw [fill_cons_of_kept gone, List.filter_cons_of_pos (by rw [gone]; rfl)]
      exact (ih (by simpa [gone] using exact)).cons item
    | true =>
      rw [List.filter_cons_of_pos gone] at exact
      rw [List.filter_cons_of_neg (by rw [gone]; exact Bool.false_ne_true)]
      cases fresh with
      | nil => exact absurd exact (by simp)
      | cons first later =>
        rw [fill_cons_of_refused gone]
        exact ((ih (by simpa using exact)).cons first).trans List.perm_middle.symm

/-- The survivors, each once. -/
theorem packed_perm (items : List α) :
    (packed refused items).Perm (items.filter fun item => !refused item) := by
  refine (fill_perm (length_holes items)).trans ?_
  refine (List.Perm.append_left _ (List.reverse_perm _)).trans ?_
  rw [← List.filter_append, List.take_append_drop]

end SwapDelete
