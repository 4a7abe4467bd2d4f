import Mathlib.Tactic.Lemma
import Mathlib.Data.List.Basic

/-! Buffers of a fixed size: a block is written over what stood at its place, and the
rest of the buffer stays. -/

namespace Buffer

universe u

variable {α : Type u}

/-- `memcpy (data + offset, block, size)` into a buffer that has room for it. -/
def write (data : List α) (offset : Nat) (block : List α) : List α :=
  data.take offset ++ block ++ data.drop (offset + block.length)

def read (data : List α) (offset size : Nat) : List α := (data.drop offset).take size

variable {data block more : List α} {offset : Nat}

lemma length_write (fits : offset + block.length ≤ data.length) :
    (write data offset block).length = data.length := by
  simp only [write, List.length_append, List.length_take, List.length_drop]
  omega

lemma getElem?_read {size index : Nat} :
    (read data offset size)[index]? = if index < size then data[offset + index]? else none := by
  rw [read, List.getElem?_take]
  split
  · rw [List.getElem?_drop]
  · rfl

/-- A part of what was read is read directly. -/
lemma read_read {start size part : Nat} (inside : start + part ≤ size) :
    read (read data offset size) start part = read data (offset + start) part := by
  apply List.ext_getElem?
  intro index
  rw [getElem?_read, getElem?_read, getElem?_read]
  split
  · rw [if_pos (by omega), Nat.add_assoc]
  · rfl

lemma getElem?_write (fits : offset + block.length ≤ data.length) (index : Nat) :
    (write data offset block)[index]? =
      if offset ≤ index ∧ index < offset + block.length then block[index - offset]?
      else data[index]? := by
  have front : (data.take offset).length = offset := by
    rw [List.length_take]
    omega
  unfold write
  rcases Nat.lt_or_ge index offset with before | behind
  · rw [if_neg (by omega), List.append_assoc, List.getElem?_append_left (by omega),
      List.getElem?_take_of_lt before]
  · rcases Nat.lt_or_ge index (offset + block.length) with inside | after
    · rw [if_pos ⟨behind, inside⟩, List.append_assoc, List.getElem?_append_right (by omega), front,
        List.getElem?_append_left (by omega)]
    · rw [if_neg (by omega), List.getElem?_append_right (by rw [List.length_append]; omega),
        List.getElem?_drop, List.length_append, front]
      congr 1
      omega

/-- What was written is read back. -/
lemma read_write_self (fits : offset + block.length ≤ data.length) :
    read (write data offset block) offset block.length = block := by
  apply List.ext_getElem?
  intro index
  rw [getElem?_read, getElem?_write fits]
  split
  · next inside =>
    rw [if_pos (by omega)]
    congr 1
    omega
  · next outside => rw [List.getElem?_eq_none (by omega)]

/-- A part of what was written is read back. -/
lemma read_write_inside (fits : offset + block.length ≤ data.length) {start size : Nat}
    (inside : start + size ≤ block.length) :
    read (write data offset block) (offset + start) size = read block start size := by
  rw [← read_read inside, read_write_self fits]

/-- A block written elsewhere changes nothing that is read here. -/
lemma read_write_apart (fits : offset + block.length ≤ data.length) {start size : Nat}
    (apart : start + size ≤ offset ∨ offset + block.length ≤ start) :
    read (write data offset block) start size = read data start size := by
  apply List.ext_getElem?
  intro index
  rw [getElem?_read, getElem?_read]
  split
  · next inside => rw [getElem?_write fits, if_neg (by omega)]
  · rfl

lemma write_append (fits : offset + block.length + more.length ≤ data.length) :
    write (write data offset block) (offset + block.length) more =
      write data offset (block ++ more) := by
  apply List.ext_getElem?
  intro index
  rw [getElem?_write (by rw [length_write (by omega)]; omega), getElem?_write (by omega),
    getElem?_write (by rw [List.length_append]; omega), List.length_append]
  rcases Nat.lt_or_ge index (offset + block.length) with before | behind
  · rw [if_neg (by omega)]
    by_cases inside : offset ≤ index
    · rw [if_pos ⟨inside, before⟩, if_pos (by omega), List.getElem?_append_left (by omega)]
    · rw [if_neg (by omega), if_neg (by omega)]
  · by_cases inside : index < offset + block.length + more.length
    · rw [if_pos (by omega), if_pos (by omega), List.getElem?_append_right (by omega)]
      congr 1
      omega
    · rw [if_neg (by omega), if_neg (by omega), if_neg (by omega)]

lemma write_behind {next : Nat} (adjacent : next = offset + block.length)
    (fits : offset + block.length + more.length ≤ data.length) :
    write (write data offset block) next more = write data offset (block ++ more) :=
  adjacent ▸ write_append fits

/-- The front is written over what stood before a block that reaches to the end. -/
lemma write_zero (front : more.length = offset) (whole : offset + block.length = data.length) :
    write (write data offset block) 0 more = more ++ block := by
  have rest : data.drop (offset + block.length) = [] := List.drop_of_length_le (by omega)
  have before : (data.take offset).length = offset := by
    rw [List.length_take]
    omega
  rw [write, write, rest, List.take_zero, List.nil_append, List.append_nil, Nat.zero_add, front,
    List.drop_left' before]

/-- Writing blocks one behind the other writes their concatenation. -/
theorem foldl_write {width : Nat} (blocks : Nat → List α) (uniform : ∀ n, (blocks n).length = width)
    (count : Nat) (fits : offset + count * width ≤ data.length) :
    (List.range count).foldl (fun data n => write data (offset + n * width) (blocks n)) data =
      write data offset ((List.range count).flatMap blocks) := by
  induction count with
  | zero => simp [write]
  | succ count ih =>
    have length : ((List.range count).flatMap blocks).length = count * width := by
      rw [List.length_flatMap, List.map_congr_left (fun n _ => uniform n)]
      simp
    rw [Nat.succ_mul] at fits
    rw [List.range_succ, List.foldl_append, List.foldl_cons, List.foldl_nil, ih (by omega),
      List.flatMap_append, List.flatMap_singleton, ← length, write_append]
    rw [length, uniform]
    omega

/-- The blocks of a concatenation, read one at a time. -/
lemma read_flatMap {width : Nat} (blocks : Nat → List α) (uniform : ∀ n, (blocks n).length = width)
    {count n : Nat} (inside : n < count) :
    read ((List.range count).flatMap blocks) (n * width) width = blocks n := by
  induction count with
  | zero => omega
  | succ count ih =>
    have length : ((List.range count).flatMap blocks).length = count * width := by
      rw [List.length_flatMap, List.map_congr_left (fun n _ => uniform n)]
      simp
    rw [List.range_succ, List.flatMap_append, List.flatMap_singleton]
    rcases Nat.lt_or_eq_of_le (Nat.le_of_lt_succ inside) with earlier | rfl
    · have room : (n + 1) * width ≤ count * width := Nat.mul_le_mul_right width earlier
      rw [Nat.succ_mul] at room
      rw [read, List.drop_append_of_le_length (by omega),
        List.take_append_of_le_length (by rw [List.length_drop]; omega)]
      exact ih earlier
    · rw [read, List.drop_append, length, Nat.sub_self, List.drop_zero,
        List.drop_of_length_le (Nat.le_of_eq length), List.nil_append,
        List.take_of_length_le (Nat.le_of_eq (uniform n))]

/-- The blocks of a buffer make up its front. -/
lemma flatMap_read {width count : Nat} (inside : count * width ≤ data.length) :
    (List.range count).flatMap (fun n => read data (n * width) width) =
      data.take (count * width) := by
  induction count with
  | zero => simp
  | succ count ih =>
    rw [Nat.succ_mul] at inside ⊢
    rw [List.range_succ, List.flatMap_append, List.flatMap_singleton, ih (by omega), read,
      List.take_add]

/-- Concatenations of equally long blocks differ where a block does. -/
lemma flatMap_inj {width count : Nat} {blocks others : Nat → List α}
    (uniform : ∀ n, (blocks n).length = width) (same : ∀ n, (others n).length = width)
    (equal : (List.range count).flatMap blocks = (List.range count).flatMap others) {n : Nat}
    (inside : n < count) : blocks n = others n := by
  rw [← read_flatMap blocks uniform inside, equal, read_flatMap others same inside]

/-- What lies in the first part of a concatenation. -/
lemma read_append_left {start size : Nat} (inside : start + size ≤ data.length) :
    read (data ++ more) start size = read data start size := by
  rw [read, List.drop_append_of_le_length (by omega),
    List.take_append_of_le_length (by rw [List.length_drop]; omega), read]

/-- What lies in its second part. -/
lemma read_append_right (start size : Nat) :
    read (data ++ more) (data.length + start) size = read more start size := by
  rw [read, List.drop_length_add_append, read]

/-- A block of a known length is skipped. -/
lemma read_behind {start skip : Nat} (length : data.length = skip) (behind : skip ≤ start)
    (size : Nat) : read (data ++ more) start size = read more (start - skip) size := by
  obtain ⟨n, rfl⟩ := Nat.exists_eq_add_of_le behind
  subst length
  rw [read_append_right, Nat.add_sub_cancel_left]

lemma read_front {size : Nat} (length : data.length = size) :
    read (data ++ more) 0 size = data := by
  rw [read, List.drop_zero, ← length, List.take_left]

lemma read_whole {size : Nat} (length : data.length = size) : read data 0 size = data := by
  rw [read, List.drop_zero, ← length, List.take_length]

/-- Two reads of adjacent parts are one read. -/
lemma read_append_read (data : List α) (offset size more : Nat) :
    read data offset size ++ read data (offset + size) more = read data offset (size + more) := by
  rw [read, read, read, List.take_add, List.drop_drop]

lemma length_read {size : Nat} (inside : offset + size ≤ data.length) :
    (read data offset size).length = size := by
  rw [read, List.length_take, List.length_drop]
  omega

end Buffer
