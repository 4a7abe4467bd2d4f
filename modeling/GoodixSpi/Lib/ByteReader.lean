import GoodixSpi.Lib.LittleEndian

/-! Readers over a bounded cursor. A pointer is the list of the bytes from it to the
end of the memory behind it, so a load past that end is visible as a fault, and a loop
that outlives its fuel is visible as a divergence.

`Reads` says which value a reader returns on an encoding; `Safe` says that a reader
rejects or returns, without a fault, on whatever bytes it is given. Both compose along
the reader's own structure. -/

namespace ByteReader

inductive Failure
  | rejected
  | outOfBounds
  | diverged
deriving DecidableEq, Repr

structure Cursor where
  data : List UInt8
  size : Nat
  offset : Nat

abbrev Reader (α : Type) := StateT Cursor (Except Failure) α

variable {α β σ : Type}

def load (pointer : List UInt8) (size : Nat) : Except Failure (List UInt8) :=
  if size ≤ pointer.length then .ok (pointer.take size) else .error .outOfBounds

def require (condition : Bool) : Reader Unit := fun cursor =>
  if condition then .ok ((), cursor) else .error .rejected

def take (size : Nat) : Reader (List UInt8) := fun cursor =>
  if cursor.offset > cursor.size ∨ size > cursor.size - cursor.offset then .error .rejected
  else .ok (cursor.data.drop cursor.offset, { cursor with offset := cursor.offset + size })

def loadAt (pointer : List UInt8) (size : Nat) : Reader (List UInt8) := fun cursor =>
  match load pointer size with
  | .ok bs => .ok (bs, cursor)
  | .error f => .error f

/-- `offset < size && data[offset] == tag`. -/
def peekIs (tag : UInt8) : Reader Bool := fun cursor =>
  if cursor.offset < cursor.size then
    match load (cursor.data.drop cursor.offset) 1 with
    | .ok bs => .ok (bs == [tag], cursor)
    | .error f => .error f
  else .ok (false, cursor)

def finish : Reader Unit := fun cursor =>
  if cursor.offset = cursor.size then .ok ((), cursor) else .error .rejected

/-- Run a reader on another cursor; the current one stays where it is. -/
def within (body : Cursor) (reader : Reader α) : Reader α := fun cursor =>
  match reader body with
  | .ok (a, _) => .ok (a, cursor)
  | .error f => .error f

def times (reader : Reader α) : Nat → Reader (List α)
  | 0 => pure []
  | count + 1 => do
    let a ← reader
    let rest ← times reader count
    return a :: rest

def whileTagLoop (tag : UInt8) (step : σ → Reader σ) : Nat → σ → Reader σ
  | 0, _ => fun _ => .error .diverged
  | fuel + 1, s => do
    if ← peekIs tag then
      let next ← step s
      whileTagLoop tag step fuel next
    else return s

/-- Repeat `step` while the next byte is `tag`; every round must consume a byte. -/
def whileTag (tag : UInt8) (step : σ → Reader σ) (s : σ) : Reader σ := fun cursor =>
  whileTagLoop tag step (cursor.size - cursor.offset + 1) s cursor

lemma bind_of_ok {reader : Reader α} {next : α → Reader β} {cursor after : Cursor} {value : α}
    (h : reader cursor = .ok (value, after)) : (reader >>= next) cursor = next value after := by
  simp only [Bind.bind, StateT.bind, Except.bind, h]

lemma bind_of_error {reader : Reader α} {next : α → Reader β} {cursor : Cursor} {f : Failure}
    (h : reader cursor = .error f) : (reader >>= next) cursor = .error f := by
  simp only [Bind.bind, StateT.bind, Except.bind, h]

/-! ### Cursors -/

def Cursor.Within (cursor : Cursor) : Prop :=
  cursor.offset ≤ cursor.size ∧ cursor.size ≤ cursor.data.length

def Cursor.remaining (cursor : Cursor) : List UInt8 :=
  (cursor.data.take cursor.size).drop cursor.offset

def Cursor.skip (cursor : Cursor) (count : Nat) : Cursor :=
  { cursor with offset := cursor.offset + count }

variable {cursor : Cursor}

lemma Cursor.Within.length_remaining (h : cursor.Within) :
    cursor.remaining.length = cursor.size - cursor.offset := by
  have fits := h.2
  simp only [Cursor.remaining, List.length_drop, List.length_take]
  omega

lemma Cursor.Within.skip (h : cursor.Within) {count : Nat}
    (fits : count ≤ cursor.size - cursor.offset) : (cursor.skip count).Within := by
  have start := h.1
  refine ⟨?_, h.2⟩
  simp only [Cursor.skip]
  omega

lemma Cursor.Within.fits (h : cursor.Within) {bytes more : List UInt8}
    (at_ : cursor.remaining = bytes ++ more) : bytes.length ≤ cursor.size - cursor.offset := by
  have length := h.length_remaining
  rw [at_, List.length_append] at length
  omega

lemma Cursor.remaining_skip {bytes more : List UInt8}
    (at_ : cursor.remaining = bytes ++ more) :
    (cursor.skip bytes.length).remaining = more := by
  have split : (cursor.skip bytes.length).remaining = cursor.remaining.drop bytes.length := by
    simp only [Cursor.remaining, Cursor.skip, List.drop_drop]
  rw [split, at_, List.drop_left]

/-- The pointer a cursor stands at begins with what the cursor still holds. -/
lemma Cursor.pointer_take {bytes more : List UInt8} (h : cursor.Within)
    (at_ : cursor.remaining = bytes ++ more) :
    (cursor.data.drop cursor.offset).take bytes.length = bytes := by
  have fits := h.fits at_
  have inside : (cursor.data.drop cursor.offset).take (cursor.size - cursor.offset) =
      cursor.remaining := by
    rw [Cursor.remaining, List.drop_take]
  calc (cursor.data.drop cursor.offset).take bytes.length
      = ((cursor.data.drop cursor.offset).take (cursor.size - cursor.offset)).take
          bytes.length := by rw [List.take_take, Nat.min_eq_left fits]
    _ = bytes := by rw [inside, at_, List.take_left]

/-! ### Reading an encoding back -/

/-- On a cursor that holds `bytes` and then exactly `more`, the reader consumes `bytes`
and returns `value`. -/
def Reads (reader : Reader α) (bytes : List UInt8) (value : α) (more : List UInt8) : Prop :=
  ∀ cursor : Cursor, cursor.Within → cursor.remaining = bytes ++ more →
    reader cursor = .ok (value, cursor.skip bytes.length)

section Reads

variable {reader : Reader α} {bytes more : List UInt8} {value : α}

lemma Reads.pure (value : α) (more : List UInt8) : Reads (pure value) [] value more :=
  fun _ _ _ => rfl

lemma Reads.bind {bytes' : List UInt8} {next : α → Reader β} {result : β}
    (first : Reads reader bytes value (bytes' ++ more))
    (second : Reads (next value) bytes' result more) :
    Reads (reader >>= next) (bytes ++ bytes') result more := by
  intro cursor inside at_
  rw [List.append_assoc] at at_
  have step := first cursor inside at_
  have rest := second _ (inside.skip (inside.fits at_)) (Cursor.remaining_skip at_)
  rw [bind_of_ok step, rest, List.length_append]
  simp only [Cursor.skip, Nat.add_assoc]

/-- A check or a computation that consumes nothing goes in front. -/
lemma Reads.bind_nil {next : α → Reader β} {result : β}
    (first : Reads reader [] value (bytes ++ more)) (second : Reads (next value) bytes result more) :
    Reads (reader >>= next) bytes result more := by
  rw [← List.nil_append bytes]
  exact first.bind second

lemma Reads.bind_cons {byte : UInt8} {next : α → Reader β} {result : β}
    (first : Reads reader [byte] value (bytes ++ more))
    (second : Reads (next value) bytes result more) :
    Reads (reader >>= next) (byte :: bytes) result more := by
  rw [← List.singleton_append]
  exact first.bind second

lemma Reads.map {f : α → β} (h : Reads reader bytes value more) :
    Reads (f <$> reader) bytes (f value) more := by
  intro cursor inside at_
  have step := h cursor inside at_
  simp only [Functor.map, StateT.map, Bind.bind, Except.bind, step]
  rfl

lemma Reads.require {condition : Bool} (h : condition = true) (more : List UInt8) :
    Reads (require condition) [] () more := by
  intro cursor _ _
  simp only [ByteReader.require, h, if_true]
  rfl

lemma Reads.finish : Reads finish [] () [] := by
  intro cursor inside at_
  have length := inside.length_remaining
  have start := inside.1
  rw [at_] at length
  simp only [List.append_nil, List.length_nil] at length
  have done : cursor.offset = cursor.size := by omega
  simp only [ByteReader.finish, if_pos done]
  rfl

lemma load_of_prefix {pointer : List UInt8} (bytes : List UInt8)
    (h : pointer.take bytes.length = bytes) : load pointer bytes.length = .ok bytes := by
  have long : bytes.length ≤ pointer.length := by
    have := congrArg List.length h
    rw [List.length_take] at this
    omega
  simp only [load, if_pos long, h]

lemma Reads.loadAt {pointer : List UInt8} {size : Nat} (h : load pointer size = .ok bytes)
    (more : List UInt8) : Reads (loadAt pointer size) [] bytes more := by
  intro cursor _ _
  simp only [ByteReader.loadAt, h]
  rfl

/-- `take` stands at the bytes it skips, so what follows may load them. -/
lemma Reads.take_bind (bytes : List UInt8) {next : List UInt8 → Reader β} {result : β}
    {bytes' : List UInt8}
    (h : ∀ pointer : List UInt8, pointer.take bytes.length = bytes →
      Reads (next pointer) bytes' result more) :
    Reads (take bytes.length >>= next) (bytes ++ bytes') result more := by
  intro cursor inside at_
  rw [List.append_assoc] at at_
  have fits := inside.fits at_
  have start := inside.1
  have room : ¬(cursor.offset > cursor.size ∨
      bytes.length > cursor.size - cursor.offset) := by omega
  have step : take bytes.length cursor =
      .ok (cursor.data.drop cursor.offset, cursor.skip bytes.length) := by
    simp only [take, if_neg room, Cursor.skip]
  have rest := h _ (Cursor.pointer_take inside at_) _ (inside.skip fits)
    (Cursor.remaining_skip at_)
  rw [bind_of_ok step, rest, List.length_append]
  simp only [Cursor.skip, Nat.add_assoc]

lemma Reads.peekIs_cons (tag byte : UInt8) (more : List UInt8) :
    Reads (peekIs tag) [] (byte == tag) (byte :: more) := by
  intro cursor inside at_
  have front : cursor.remaining = [byte] ++ more := at_
  have pointer := Cursor.pointer_take inside front
  have fits := inside.fits front
  have start := inside.1
  simp only [List.length_singleton] at fits
  have room : cursor.offset < cursor.size := by omega
  have loaded : load (cursor.data.drop cursor.offset) 1 = .ok [byte] := load_of_prefix _ pointer
  have alone : ([byte] == [tag]) = (byte == tag) := Bool.and_true (byte == tag)
  simp only [peekIs, if_pos room, loaded, alone]
  rfl

lemma Reads.peekIs_nil (tag : UInt8) : Reads (peekIs tag) [] false [] := by
  intro cursor inside at_
  have length := inside.length_remaining
  rw [at_] at length
  simp only [List.append_nil, List.length_nil] at length
  have done : ¬cursor.offset < cursor.size := by omega
  simp only [peekIs, if_neg done]
  rfl

lemma Reads.within {body : Cursor} (inside : body.Within) (all : body.remaining = bytes)
    (h : Reads reader bytes value []) (more : List UInt8) :
    Reads (within body reader) [] value more := by
  intro cursor _ _
  have step := h body inside (by rw [all, List.append_nil])
  simp only [ByteReader.within, step]
  rfl

lemma Reads.times {encode : β → List UInt8} {decode : β → α} (items : List β)
    (each : ∀ item ∈ items, ∀ more, Reads reader (encode item) (decode item) more)
    (more : List UInt8) :
    Reads (times reader items.length) (items.flatMap encode) (items.map decode) more := by
  induction items with
  | nil => exact Reads.pure _ _
  | cons item rest ih =>
    simp only [List.flatMap_cons, List.map_cons, List.length_cons, ByteReader.times]
    refine Reads.bind (each item List.mem_cons_self _) ?_
    have tail := ih fun i hi => each i (List.mem_cons_of_mem item hi)
    rw [← List.append_nil (rest.flatMap encode)]
    exact Reads.bind (by simpa using tail) (Reads.pure _ more)

/-- The bytes after a repeated group do not begin with its tag. -/
def Stops (tag : UInt8) (more : List UInt8) : Prop := ∀ byte rest, more = byte :: rest → byte ≠ tag

lemma Reads.peekIs_stops {tag : UInt8} (stops : Stops tag more) :
    Reads (peekIs tag) [] false more := by
  cases more with
  | nil => exact Reads.peekIs_nil tag
  | cons byte rest =>
    have differs : (byte == tag) = false := by simpa using stops byte rest rfl
    simpa only [differs] using Reads.peekIs_cons tag byte rest

lemma Reads.whileTagLoop {tag : UInt8} {step : σ → Reader σ} {encode : β → List UInt8}
    {next : σ → β → σ} (items : List β)
    (tagged : ∀ item ∈ items, ∃ rest, encode item = tag :: rest)
    (each : ∀ item ∈ items, ∀ s more, Reads (step s) (encode item) (next s item) more)
    (stops : Stops tag more) (fuel : Nat) (enough : items.length < fuel) (s : σ) :
    Reads (whileTagLoop tag step fuel s) (items.flatMap encode) (items.foldl next s) more := by
  induction items generalizing fuel s with
  | nil =>
    obtain ⟨fuel, rfl⟩ := Nat.exists_eq_add_of_lt enough
    simp only [ByteReader.whileTagLoop, List.flatMap_nil, List.foldl_nil]
    exact Reads.bind_nil (Reads.peekIs_stops stops) (Reads.pure s more)
  | cons item rest ih =>
    obtain ⟨fuel, rfl⟩ : ∃ n, fuel = n + 1 := ⟨fuel - 1, by simp at enough; omega⟩
    obtain ⟨body, hbody⟩ := tagged item List.mem_cons_self
    simp only [ByteReader.whileTagLoop, List.flatMap_cons, List.foldl_cons]
    have found : Reads (peekIs tag) [] true (encode item ++ rest.flatMap encode ++ more) := by
      rw [hbody]
      simpa using Reads.peekIs_cons tag tag (body ++ rest.flatMap encode ++ more)
    refine Reads.bind_nil found <| Reads.bind (each item List.mem_cons_self s _) ?_
    exact ih (fun i hi => tagged i (List.mem_cons_of_mem item hi))
      (fun i hi => each i (List.mem_cons_of_mem item hi)) fuel
      (by simpa using enough) (next s item)

lemma length_le_flatMap {tag : UInt8} {encode : β → List UInt8} (items : List β)
    (tagged : ∀ item ∈ items, ∃ rest, encode item = tag :: rest) :
    items.length ≤ (items.flatMap encode).length := by
  induction items with
  | nil => simp
  | cons item rest ih =>
    obtain ⟨body, hbody⟩ := tagged item List.mem_cons_self
    have tail := ih fun i hi => tagged i (List.mem_cons_of_mem item hi)
    simp only [List.flatMap_cons, List.length_append, hbody, List.length_cons]
    omega

/-- A repeated group reads back item by item, as long as the bytes after it stop it. -/
lemma Reads.whileTag {tag : UInt8} {step : σ → Reader σ} {encode : β → List UInt8}
    {next : σ → β → σ} (items : List β)
    (tagged : ∀ item ∈ items, ∃ rest, encode item = tag :: rest)
    (each : ∀ item ∈ items, ∀ s more, Reads (step s) (encode item) (next s item) more)
    (stops : Stops tag more) (s : σ) :
    Reads (whileTag tag step s) (items.flatMap encode) (items.foldl next s) more := by
  intro cursor inside at_
  have fits := inside.fits at_
  have few := length_le_flatMap items tagged
  exact Reads.whileTagLoop items tagged each stops _ (by omega) s cursor inside at_

end Reads

/-! ### Arbitrary bytes -/

/-- The same window, at least `least` bytes further on. -/
structure Cursor.Moved (least : Nat) (before after : Cursor) : Prop where
  inside : after.Within
  data_eq : after.data = before.data
  size_eq : after.size = before.size
  moved : before.offset + least ≤ after.offset

lemma Cursor.Moved.refl (inside : cursor.Within) : cursor.Moved 0 cursor :=
  ⟨inside, rfl, rfl, Nat.le_refl _⟩

lemma Cursor.Moved.trans {least more : Nat} {a b c : Cursor} (first : a.Moved least b)
    (second : b.Moved more c) : a.Moved (least + more) c := by
  have h₁ := first.moved
  have h₂ := second.moved
  exact ⟨second.inside, second.data_eq.trans first.data_eq, second.size_eq.trans first.size_eq,
    by omega⟩

lemma Cursor.Moved.weaken {least least' : Nat} {a b : Cursor} (h : a.Moved least b)
    (fewer : least' ≤ least) : a.Moved least' b :=
  ⟨h.inside, h.data_eq, h.size_eq, by have := h.moved; omega⟩

def Allowed (least : Nat) (post : α → Prop) (before : Cursor) :
    Except Failure (α × Cursor) → Prop
  | .ok (value, after) => post value ∧ before.Moved least after
  | .error f => f = .rejected

/-- Whatever the cursor holds, the reader rejects or returns a value with `post` after
consuming at least `least` bytes of it. -/
def Safe (least : Nat) (reader : Reader α) (post : α → Prop) : Prop :=
  ∀ cursor : Cursor, cursor.Within → Allowed least post cursor (reader cursor)

section Safe

variable {least more : Nat} {reader : Reader α} {post : α → Prop}

lemma Allowed.weaken {least' : Nat} {post' : α → Prop} {outcome : Except Failure (α × Cursor)}
    (h : Allowed least post cursor outcome) (fewer : least' ≤ least)
    (imp : ∀ value, post value → post' value) : Allowed least' post' cursor outcome := by
  cases outcome with
  | error f => exact h
  | ok pair => exact ⟨imp _ h.1, h.2.weaken fewer⟩

lemma Allowed.after {least' : Nat} {after : Cursor} {outcome : Except Failure (α × Cursor)}
    (moved : cursor.Moved least after) (h : Allowed least' post after outcome) :
    Allowed (least + least') post cursor outcome := by
  cases outcome with
  | error f => exact h
  | ok pair => exact ⟨h.1, moved.trans h.2⟩

lemma Safe.pure {value : α} (h : post value) : Safe 0 (pure value) post :=
  fun _ inside => ⟨h, .refl inside⟩

lemma Safe.bind {next : α → Reader β} {post' : β → Prop} (first : Safe least reader post)
    (second : ∀ value, post value → Safe more (next value) post') :
    Safe (least + more) (reader >>= next) post' := by
  intro cursor inside
  have step := first cursor inside
  cases run : reader cursor with
  | error f =>
    rw [run] at step
    rw [bind_of_error run]
    exact step
  | ok pair =>
    obtain ⟨value, after⟩ := pair
    rw [run] at step
    obtain ⟨holds, moved⟩ := step
    rw [bind_of_ok run]
    exact (second value holds after moved.inside).after moved

lemma Safe.weaken {least' : Nat} {post' : α → Prop} (h : Safe least reader post)
    (fewer : least' ≤ least) (imp : ∀ value, post value → post' value) :
    Safe least' reader post' :=
  fun cursor inside => (h cursor inside).weaken fewer imp

lemma Safe.bind_last {next : α → Reader β} {post' : β → Prop} (first : Safe least reader post)
    (second : ∀ value, post value → Safe 0 (next value) post') :
    Safe least (reader >>= next) post' :=
  first.bind second

lemma Safe.bind₀ {next : α → Reader β} {post' : β → Prop} (first : Safe least reader post)
    (second : ∀ value, post value → Safe 0 (next value) post') :
    Safe 0 (reader >>= next) post' :=
  (first.bind_last second).weaken (Nat.zero_le _) fun _ h => h

lemma Safe.require (condition : Bool) :
    Safe 0 (require condition) fun _ => condition = true := by
  intro cursor inside
  cases condition with
  | false => rfl
  | true => exact ⟨rfl, .refl inside⟩

lemma Safe.finish : Safe 0 finish fun _ => True := by
  intro cursor inside
  by_cases h : cursor.offset = cursor.size
  · rw [ByteReader.finish, if_pos h]
    exact ⟨trivial, .refl inside⟩
  · rw [ByteReader.finish, if_neg h]
    rfl

lemma Safe.take (size : Nat) : Safe size (take size) fun pointer => size ≤ pointer.length := by
  intro cursor inside
  by_cases h : cursor.offset > cursor.size ∨ size > cursor.size - cursor.offset
  · rw [ByteReader.take, if_pos h]
    rfl
  · rw [ByteReader.take, if_neg h]
    have start := inside.1
    have fits := inside.2
    have long : size ≤ (cursor.data.drop cursor.offset).length := by
      rw [List.length_drop]
      omega
    exact ⟨long, inside.skip (show size ≤ cursor.size - cursor.offset by omega), rfl, rfl,
      Nat.le_refl _⟩

lemma Safe.loadAt {pointer : List UInt8} {size : Nat} (h : size ≤ pointer.length) :
    Safe 0 (loadAt pointer size) fun bs => bs.length = size := by
  intro cursor inside
  rw [ByteReader.loadAt, load, if_pos h]
  exact ⟨by simpa using h, .refl inside⟩

lemma Safe.peekIs (tag : UInt8) : Safe 0 (peekIs tag) fun _ => True := by
  intro cursor inside
  by_cases h : cursor.offset < cursor.size
  · have long : 1 ≤ (cursor.data.drop cursor.offset).length := by
      have fits := inside.2
      rw [List.length_drop]
      omega
    rw [ByteReader.peekIs, if_pos h, load, if_pos long]
    exact ⟨trivial, .refl inside⟩
  · rw [ByteReader.peekIs, if_neg h]
    exact ⟨trivial, .refl inside⟩

lemma Safe.within {body : Cursor} (inside : body.Within) (h : Safe least reader post) :
    Safe 0 (within body reader) post := by
  intro cursor inside'
  have step := h body inside
  unfold ByteReader.within
  cases run : reader body with
  | error f =>
    rw [run] at step
    exact step
  | ok pair =>
    rw [run] at step
    exact ⟨step.1, .refl inside'⟩

lemma Safe.times (h : Safe least reader post) (count : Nat) :
    Safe 0 (times reader count) fun values => values.length = count ∧ ∀ v ∈ values, post v := by
  induction count with
  | zero => exact Safe.pure ⟨rfl, by simp⟩
  | succ count ih =>
    refine h.bind₀ fun value holds => ih.bind₀ fun rest hrest => Safe.pure ⟨?_, ?_⟩
    · simp [hrest.1]
    · intro v hv
      rcases List.mem_cons.mp hv with rfl | hv
      · exact holds
      · exact hrest.2 v hv

lemma whileTagLoop_succ (tag : UInt8) (step : σ → Reader σ) (fuel : Nat) (s : σ) :
    whileTagLoop tag step (fuel + 1) s = peekIs tag >>= fun found =>
      if found then step s >>= whileTagLoop tag step fuel else pure s := rfl

/-- Each round consumes a byte, so the fuel of `whileTag` outlives the cursor. -/
lemma Safe.whileTag {tag : UInt8} {step : σ → Reader σ} {invariant : σ → Prop}
    (preserves : ∀ s, invariant s → Safe 1 (step s) invariant) {s : σ} (h : invariant s) :
    Safe 0 (whileTag tag step s) invariant := by
  have loop : ∀ fuel s, invariant s → ∀ cursor : Cursor, cursor.Within →
      cursor.size - cursor.offset < fuel →
      Allowed 0 invariant cursor (whileTagLoop tag step fuel s cursor) := by
    intro fuel
    induction fuel with
    | zero => intro s _ cursor _ enough; omega
    | succ fuel ih =>
      intro s hs cursor inside enough
      have seen := Safe.peekIs tag cursor inside
      rw [whileTagLoop_succ]
      cases peeked : ByteReader.peekIs tag cursor with
      | error f =>
        rw [peeked] at seen
        rw [bind_of_error peeked]
        exact seen
      | ok pair =>
        obtain ⟨found, after⟩ := pair
        rw [peeked] at seen
        have moved := seen.2
        rw [bind_of_ok peeked]
        cases found with
        | false => exact ⟨hs, moved⟩
        | true =>
          have stepped := preserves s hs after moved.inside
          simp only [if_true]
          cases run : step s after with
          | error f =>
            rw [run] at stepped
            rw [bind_of_error run]
            exact stepped
          | ok pair' =>
            obtain ⟨next, after'⟩ := pair'
            rw [run] at stepped
            obtain ⟨hnext, moved'⟩ := stepped
            have ends := moved'.inside.1
            have further := moved'.moved
            have further' := moved.moved
            have size' := moved'.size_eq.trans moved.size_eq
            have rest := ih next hnext after' moved'.inside (by omega)
            rw [bind_of_ok run]
            exact ((rest.after moved').after moved).weaken (Nat.zero_le _) fun _ h => h
  intro cursor inside
  exact loop _ s h cursor inside (by omega)

end Safe

/-! ### What a reader returns -/

/-- Whatever the reader returns satisfies `post`, on any cursor. -/
def Yields (reader : Reader α) (post : α → Prop) : Prop :=
  ∀ cursor value after, reader cursor = .ok (value, after) → post value

section Yields

variable {reader : Reader α} {post : α → Prop}

lemma Yields.pure {value : α} (h : post value) : Yields (pure value) post := by
  intro cursor value' after returned
  cases returned
  exact h

lemma Yields.bind {next : α → Reader β} {post' : β → Prop} (first : Yields reader post)
    (rest : ∀ value, post value → Yields (next value) post') : Yields (reader >>= next) post' := by
  intro cursor value after returned
  cases run : reader cursor with
  | error failure =>
    rw [bind_of_error run] at returned
    cases returned
  | ok pair =>
    rw [bind_of_ok run] at returned
    exact rest pair.1 (first cursor pair.1 pair.2 run) _ _ _ returned

/-- Nothing is asked of what comes before. -/
lemma Yields.after {next : α → Reader β} {post' : β → Prop}
    (rest : ∀ value, Yields (next value) post') : Yields (reader >>= next) post' :=
  @Yields.bind _ _ reader (fun _ => True) next post' (fun _ _ _ _ => trivial)
    fun value _ => rest value

lemma Yields.within {body : Cursor} (h : Yields reader post) : Yields (within body reader) post := by
  intro cursor value after returned
  unfold ByteReader.within at returned
  split at returned
  · next read =>
    cases returned
    exact h _ _ _ read
  · cases returned

lemma Yields.times (h : Yields reader post) (count : Nat) :
    Yields (times reader count) fun values => ∀ value ∈ values, post value := by
  induction count with
  | zero => exact .pure fun value listed => absurd listed List.not_mem_nil
  | succ count ih =>
    refine h.bind fun value holds => ih.bind fun rest all => .pure fun v listed => ?_
    rcases List.mem_cons.mp listed with rfl | later
    · exact holds
    · exact all v later

end Yields

end ByteReader
