import Mathlib.Data.List.Basic

/-! A queue that makes room by dropping its oldest item. What was taken from it, followed by
what is left in it, is in the order in which items were pushed. -/

namespace DropOldest

universe u

variable {Item : Type u}

def push (cap : Nat) (queue : List Item) (item : Item) : List Item :=
  (if cap ≤ queue.length then queue.tail else queue) ++ [item]

variable {cap : Nat} {queue taken pushed : List Item} {item : Item}

lemma kept_sublist : (if cap ≤ queue.length then queue.tail else queue).Sublist queue := by
  split
  · exact List.tail_sublist queue
  · exact List.Sublist.refl queue

theorem mem_push {other : Item} (listed : other ∈ push cap queue item) :
    other ∈ queue ∨ other = item := by
  rcases List.mem_append.mp listed with old | new
  · exact .inl (kept_sublist.subset old)
  · exact .inr (List.mem_singleton.mp new)

/-- Below its capacity the queue drops nothing. -/
theorem push_of_lt (room : queue.length < cap) : push cap queue item = queue ++ [item] := by
  rw [push, if_neg (Nat.not_le_of_lt room)]

theorem push_sublist (ordered : (taken ++ queue).Sublist pushed) :
    (taken ++ push cap queue item).Sublist (pushed ++ [item]) := by
  rw [push, ← List.append_assoc]
  exact ((List.Sublist.append_left kept_sublist taken).trans ordered).append_right [item]

end DropOldest
