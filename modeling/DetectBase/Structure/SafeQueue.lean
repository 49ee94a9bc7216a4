import Mathlib.Data.List.Basic

/-!
# Bounded queues

`SafeQueue<T>` is the queue through which the threads of the service talk to each other. Every
operation is one critical section of the queue's mutex, so an operation is a function here, and
interleavings are a matter of the systems that use it. A queue that is full drops its oldest
element to take in a new one.
-/

namespace DetectBase

/-- `SafeQueue<T>`. -/
structure SafeQueue (α : Type) where
  /-- `q`, the oldest element first. -/
  items : List α
  /-- `max_size_`; there is no limit when it is 0. -/
  maxSize : ℕ
  /-- `drop_count_`. -/
  dropCount : ℕ
  /-- `b_terminate`. -/
  terminated : Bool

namespace SafeQueue

variable {α : Type}

/-- A new queue on which `SetMaxSize` has been called. -/
def new (maxSize : ℕ) : SafeQueue α := ⟨[], maxSize, 0, false⟩

/-- The next `enqueue` drops an element. -/
def IsFull (q : SafeQueue α) : Prop := 0 < q.maxSize ∧ q.maxSize ≤ q.items.length

instance (q : SafeQueue α) : Decidable q.IsFull := inferInstanceAs (Decidable (_ ∧ _))

/-- **`enqueue_copy` and `enqueue_move`**. -/
def enqueue (q : SafeQueue α) (x : α) : SafeQueue α :=
  if q.IsFull then { q with items := q.items.tail ++ [x], dropCount := q.dropCount + 1 }
  else { q with items := q.items ++ [x] }

/-- **`dequeue_wait_for`**: the oldest element and the queue without it, or nothing, when the queue
has been terminated or is still empty after the wait. -/
def dequeue (q : SafeQueue α) : Option (α × SafeQueue α) :=
  match q.terminated, q.items with
  | false, x :: xs => some (x, { q with items := xs })
  | _, _ => none

/-- The element that the next `enqueue` drops. -/
def oldest (q : SafeQueue α) : Option α := if q.IsFull then q.items.head? else none

/-- **`terminate`**. -/
def terminate (q : SafeQueue α) : SafeQueue α := { q with terminated := true }

theorem items_enqueue {q : SafeQueue α} (h : ¬ q.IsFull) (x : α) :
    (q.enqueue x).items = q.items ++ [x] := by
  rw [enqueue, if_neg h]

/-- **An `enqueue` puts one element in, and takes out what it drops.** -/
theorem oldest_append_enqueue (q : SafeQueue α) (x : α) :
    q.oldest.toList ++ (q.enqueue x).items = q.items ++ [x] := by
  rw [oldest, enqueue]
  split_ifs with hfull
  · obtain ⟨hpos, hle⟩ := hfull
    cases hitems : q.items with
    | nil =>
      rw [hitems, List.length_nil] at hle
      omega
    | cons y ys => rfl
  · rfl

theorem mem_items_enqueue {q : SafeQueue α} {x y : α} (h : y ∈ (q.enqueue x).items) :
    y ∈ q.items ∨ y = x := by
  rw [enqueue] at h
  split_ifs at h
  · rcases List.mem_append.mp h with h | h
    · exact Or.inl (List.mem_of_mem_tail h)
    · exact Or.inr (List.mem_singleton.mp h)
  · rcases List.mem_append.mp h with h | h
    · exact Or.inl h
    · exact Or.inr (List.mem_singleton.mp h)

theorem items_of_dequeue {q q' : SafeQueue α} {x : α} (h : q.dequeue = some (x, q')) :
    q.items = x :: q'.items := by
  rw [dequeue] at h
  split at h
  · next hitems =>
    cases h
    exact hitems
  · cases h

/-- A queue without a limit is never full. -/
theorem not_isFull {q : SafeQueue α} (h : q.maxSize = 0) : ¬ q.IsFull := by
  rintro ⟨hpos, -⟩
  omega

@[simp] theorem maxSize_enqueue (q : SafeQueue α) (x : α) : (q.enqueue x).maxSize = q.maxSize := by
  rw [enqueue]
  split_ifs <;> rfl

theorem maxSize_of_dequeue {q q' : SafeQueue α} {x : α} (h : q.dequeue = some (x, q')) :
    q'.maxSize = q.maxSize := by
  rw [dequeue] at h
  split at h
  · cases h
    rfl
  · cases h

theorem length_enqueue {q : SafeQueue α} {x : α} (hmax : 0 < q.maxSize)
    (h : q.items.length ≤ q.maxSize) : (q.enqueue x).items.length ≤ q.maxSize := by
  rw [enqueue]
  split_ifs with hfull
  · simp only [List.length_append, List.length_tail, List.length_singleton]
    omega
  · have hlt : q.items.length < q.maxSize := by
      by_contra hge
      exact hfull ⟨hmax, Nat.le_of_not_lt hge⟩
    simp only [List.length_append, List.length_singleton]
    omega

@[simp] theorem terminated_enqueue (q : SafeQueue α) (x : α) :
    (q.enqueue x).terminated = q.terminated := by
  rw [enqueue]
  split_ifs <;> rfl

/-- Only a queue that works hands out anything. -/
theorem terminated_of_dequeue {q q' : SafeQueue α} {x : α} (h : q.dequeue = some (x, q')) :
    q.terminated = false ∧ q'.terminated = false := by
  rw [dequeue] at h
  split at h
  · next hterm _ =>
    cases h
    exact ⟨hterm, hterm⟩
  · cases h

end SafeQueue

end DetectBase
