import DetectBase.Foundations.Transition
import DetectBase.Structure.SafeQueue
import Mathlib.Algebra.Group.Nat.Defs
import Mathlib.Data.List.Count
import Mathlib.Logic.Function.Basic

/-!
# The history of a queue

A `SafeQueue` in the hands of any number of threads. Each critical section of its mutex is one step:
`dequeue_wait_for` is one of them when it needs not wait, and one for each time the thread gets the
mutex back when it has to; `clear_with_action` takes the elements out in one step and works on them
outside of the mutex.

Everything that goes into the queue leaves it in the same order, in one of three ways
(`DetectBase.SharedQueue.items_conserved`), and nothing is handed out after `terminate`. The
capacity is another matter: an `enqueue` takes out one element at most, so that a queue whose
capacity has been lowered under its size stays too long
(`DetectBase.SharedQueue.respectsCapacity_iff`).
-/

namespace DetectBase

/-! ### Operations on the queue alone -/

namespace SafeQueue

variable {α : Type}

/-- **`SetMaxSize`**. -/
def setMaxSize (q : SafeQueue α) (n : ℕ) : SafeQueue α := { q with maxSize := n }

/-- What `clear_with_action` and `clear_without_action` leave behind: `q.swap(temp_q)`, with an
empty `temp_q`. -/
def clear (q : SafeQueue α) : SafeQueue α := { q with items := [] }

/-- The predicate under which `dequeue_wait_for` stops to wait. -/
def ready (q : SafeQueue α) : Bool := !q.items.isEmpty || q.terminated

/-- **`GetDropCount`**: `drop_count_` is a `uint64_t`, of which `dropCount` is the value without the
wrap-around. -/
def getDropCount (q : SafeQueue α) : UInt64 := UInt64.ofNat q.dropCount

theorem dropCount_enqueue (q : SafeQueue α) (x : α) :
    (q.enqueue x).dropCount = q.dropCount + q.oldest.toList.length := by
  rw [enqueue, oldest]
  split_ifs with hfull
  · obtain ⟨hpos, hle⟩ := hfull
    rcases hitems : q.items with _ | ⟨y, ys⟩
    · rw [hitems, List.length_nil] at hle
      omega
    · rfl
  · rfl

theorem dropCount_of_dequeue {q q' : SafeQueue α} {x : α} (h : q.dequeue = some (x, q')) :
    q'.dropCount = q.dropCount := by
  rw [dequeue] at h
  split at h
  · cases h
    rfl
  · cases h

theorem isFull_enqueue {q : SafeQueue α} (h : q.IsFull) (x : α) : (q.enqueue x).IsFull := by
  obtain ⟨hpos, hle⟩ := h
  have hlength : (q.enqueue x).items.length = q.items.length := by
    rw [enqueue, if_pos ⟨hpos, hle⟩]
    simp only [List.length_append, List.length_tail, List.length_singleton]
    omega
  rw [IsFull, maxSize_enqueue, hlength]
  exact ⟨hpos, hle⟩

/-- **An `enqueue` respects the capacity exactly when the queue did so before it.** -/
theorem length_enqueue_le_iff {q : SafeQueue α} {x : α} (hmax : 0 < q.maxSize) :
    (q.enqueue x).items.length ≤ q.maxSize ↔ q.items.length ≤ q.maxSize := by
  refine ⟨fun hle => ?_, length_enqueue hmax⟩
  rw [enqueue] at hle
  split_ifs at hle with hfull
  · simp only [List.length_append, List.length_tail, List.length_singleton] at hle
    omega
  · simp only [List.length_append, List.length_singleton] at hle
    omega

end SafeQueue

/-! ### The queue and its threads -/

/-- What has happened to the elements of a queue. -/
inductive QueueEvent (α : Type)
  /-- An element has been put in. -/
  | enqueued (x : α)
  /-- An element has been handed out. -/
  | dequeued (x : α)
  /-- An element has been dropped to make room. -/
  | dropped (x : α)
  /-- An element has been taken out by one of the `clear` functions. -/
  | cleared (x : α)
  /-- `terminate` has been called. -/
  | terminated
  deriving DecidableEq

namespace QueueEvent

variable {α : Type}

/-- The element that went in. -/
def entered : QueueEvent α → Option α
  | enqueued x => some x
  | _ => none

/-- The element that left. -/
def left : QueueEvent α → Option α
  | dequeued x | dropped x | cleared x => some x
  | _ => none

/-- An element has been dropped. -/
def isDropped : QueueEvent α → Bool
  | dropped _ => true
  | _ => false

end QueueEvent

/-- Where a thread is that uses a queue. -/
inductive QueueThread (α : Type)
  /-- Outside of the queue's functions. -/
  | idle
  /-- In `dequeue_wait_for`, without the mutex. -/
  | waiting
  /-- In `clear_with_action`, without the mutex and with the rest of `temp_q`. -/
  | cleaning (tempQ : List α)

/-- **A queue that threads share**. -/
structure SharedQueue (α : Type) where
  /-- The queue. -/
  queue : SafeQueue α
  /-- Where each thread is. -/
  threads : ℕ → QueueThread α
  /-- What has happened so far, for the statements only. -/
  log : List (QueueEvent α)
  /-- `SetMaxSize` has been called since the last `enqueue`, for the statements only. -/
  resized : Bool

/-- **What a thread does next**: a function that is a single critical section, which any thread
calls that is outside of the others, or a part of one of the other two. -/
inductive QueueAction (α : Type)
  /-- `SetMaxSize`. -/
  | setMaxSize (n : ℕ)
  /-- `enqueue_copy`. -/
  | enqueueCopy (x : α)
  /-- `enqueue_move`. -/
  | enqueueMove (x : α)
  /-- `terminate`. -/
  | terminate
  /-- `clear_without_action`. -/
  | clearWithoutAction
  /-- `clear_with_action`, up to the end of its critical section. -/
  | clearWithAction (who : ℕ)
  /-- The action of `clear_with_action` on the next element, or the end of the loop. -/
  | applyAction (who : ℕ)
  /-- `dequeue_wait_for`, up to its end or the wait. -/
  | dequeueWaitFor (who : ℕ)
  /-- A thread that waits has the mutex again, for one reason or another. -/
  | wake (who : ℕ) (timedOut : Bool)

namespace QueueAction

variable {α : Type}

/-- `enqueue_copy` and `enqueue_move`. -/
def isEnqueue : QueueAction α → Bool
  | enqueueCopy _ | enqueueMove _ => true
  | _ => false

end QueueAction

namespace SharedQueue

variable {α : Type}

/-- A queue as its constructor makes it. -/
def start : SharedQueue α := ⟨.new 0, fun _ => .idle, [], false⟩

/-- A thread goes on. -/
def goto (s : SharedQueue α) (who : ℕ) (thread : QueueThread α) : SharedQueue α :=
  { s with threads := Function.update s.threads who thread }

/-- **`enqueue_copy` and `enqueue_move`**. -/
def enqueue (s : SharedQueue α) (x : α) : SharedQueue α :=
  { s with
    queue := s.queue.enqueue x
    log := s.log ++ (s.queue.oldest.toList.map .dropped ++ [.enqueued x])
    resized := false }

/-- The critical section of the `clear` functions. -/
def clear (s : SharedQueue α) : SharedQueue α :=
  { s with queue := s.queue.clear, log := s.log ++ s.queue.items.map .cleared }

/-- The end of `dequeue_wait_for`, once the predicate of the wait holds. -/
def take (s : SharedQueue α) (who : ℕ) : SharedQueue α :=
  match s.queue.dequeue with
  | some (x, queue) => goto { s with queue, log := s.log ++ [.dequeued x] } who .idle
  | none => s.goto who .idle

/-- **A step of one thread.** -/
def step (s : SharedQueue α) : QueueAction α → Option (SharedQueue α)
  | .setMaxSize n => some { s with queue := s.queue.setMaxSize n, resized := true }
  | .enqueueCopy x => some (s.enqueue x)
  | .enqueueMove x => some (s.enqueue x)
  | .terminate => some { s with queue := s.queue.terminate, log := s.log ++ [.terminated] }
  | .clearWithoutAction => some s.clear
  | .clearWithAction who =>
    match s.threads who with
    | .idle => some (s.clear.goto who (.cleaning s.queue.items))
    | _ => none
  | .applyAction who =>
    match s.threads who with
    | .cleaning [] => some (s.goto who .idle)
    | .cleaning (_ :: tempQ) => some (s.goto who (.cleaning tempQ))
    | _ => none
  | .dequeueWaitFor who =>
    match s.threads who with
    | .idle =>
      if s.queue.terminated then some s
      else if s.queue.ready then some (s.take who)
      else some (s.goto who .waiting)
    | _ => none
  | .wake who timedOut =>
    match s.threads who with
    | .waiting =>
      if s.queue.ready then some (s.take who)
      else if timedOut then some (s.goto who .idle)
      else some s
    | _ => none

/-! ### What a step does -/

/-- **The ways in which a step changes the queue**, with what it adds to the log. -/
inductive Change (s : SharedQueue α) (a : QueueAction α) (s' : SharedQueue α) : Prop
  /-- The queue is as before. -/
  | same (hqueue : s'.queue = s.queue) (hlog : s'.log = s.log) (hresized : s'.resized = s.resized)
  /-- The capacity is another one. -/
  | resize (n : ℕ) (ha : a = .setMaxSize n) (hqueue : s'.queue = s.queue.setMaxSize n)
      (hlog : s'.log = s.log) (hresized : s'.resized = true)
  /-- An element goes in. -/
  | enqueue (x : α) (ha : a.isEnqueue = true) (hs : s' = s.enqueue x)
  /-- An element is handed out. -/
  | dequeue (x : α) (hqueue : s.queue.dequeue = some (x, s'.queue))
      (hlog : s'.log = s.log ++ [.dequeued x]) (hresized : s'.resized = s.resized)
  /-- The elements are taken out. -/
  | clear (hqueue : s'.queue = s.queue.clear) (hlog : s'.log = s.log ++ s.queue.items.map .cleared)
      (hresized : s'.resized = s.resized)
  /-- The queue is shut. -/
  | terminate (hqueue : s'.queue = s.queue.terminate) (hlog : s'.log = s.log ++ [.terminated])
      (hresized : s'.resized = s.resized)

variable {s s' : SharedQueue α} {a : QueueAction α}

theorem change_take (s : SharedQueue α) (a : QueueAction α) (who : ℕ) :
    s.Change a (s.take who) := by
  rw [take]
  split
  · next x queue hqueue => exact .dequeue x hqueue rfl rfl
  · exact .same rfl rfl rfl

theorem change_of_step (hstep : step s a = some s') : s.Change a s' := by
  cases a with
  | setMaxSize n =>
    cases hstep
    exact .resize n rfl rfl rfl rfl
  | enqueueCopy x | enqueueMove x =>
    cases hstep
    exact .enqueue x rfl rfl
  | terminate =>
    cases hstep
    exact .terminate rfl rfl rfl
  | clearWithoutAction =>
    cases hstep
    exact .clear rfl rfl rfl
  | clearWithAction who =>
    rw [step] at hstep
    split at hstep <;> cases hstep
    exact .clear rfl rfl rfl
  | applyAction who =>
    rw [step] at hstep
    split at hstep <;> cases hstep <;> exact .same rfl rfl rfl
  | dequeueWaitFor who =>
    rw [step] at hstep
    split at hstep
    · split_ifs at hstep <;> cases hstep
      · exact .same rfl rfl rfl
      · exact change_take s _ who
      · exact .same rfl rfl rfl
    · cases hstep
  | wake who timedOut =>
    rw [step] at hstep
    split at hstep
    · split_ifs at hstep <;> cases hstep
      · exact change_take s _ who
      · exact .same rfl rfl rfl
      · exact .same rfl rfl rfl
    · cases hstep

/-! ### Elements are conserved -/

/-- The elements put in so far, in this order. -/
def enqueued (s : SharedQueue α) : List α := s.log.filterMap QueueEvent.entered

/-- The elements taken out so far, in this order. -/
def removed (s : SharedQueue α) : List α := s.log.filterMap QueueEvent.left

/-- The number of elements dropped so far. -/
def dropped (s : SharedQueue α) : ℕ := s.log.countP QueueEvent.isDropped

/-- Nothing has been handed out after `terminate`. -/
def QuietAfterTerminate (s : SharedQueue α) : Prop :=
  ∀ pre post, s.log = pre ++ .terminated :: post → ∀ x, .dequeued x ∉ post

/-- **What has happened accounts for what is there.** -/
structure Accounted (s : SharedQueue α) : Prop where
  /-- What was taken out and what is still there is what was put in. -/
  items : s.removed ++ s.queue.items = s.enqueued
  /-- Each element that was dropped has been counted. -/
  drops : s.queue.dropCount = s.dropped
  /-- `terminate` leaves its mark. -/
  shut : .terminated ∈ s.log → s.queue.terminated = true
  /-- Nothing is handed out after it. -/
  quiet : s.QuietAfterTerminate

theorem accounted_start : Accounted (start : SharedQueue α) := by
  refine ⟨rfl, rfl, nofun, ?_⟩
  rintro pre post hlog
  simp [start] at hlog

/-- Events that hand nothing out once the queue is shut can be added. -/
theorem QuietAfterTerminate.append (hquiet : s.QuietAfterTerminate) {events : List (QueueEvent α)}
    (hlog : s'.log = s.log ++ events)
    (hevents : .terminated ∈ s.log ++ events → ∀ x, .dequeued x ∉ events) :
    s'.QuietAfterTerminate := by
  rintro pre post heq x hmem
  rw [hlog] at heq
  have hterminated : .terminated ∈ s.log ++ events := by
    rw [heq]
    exact List.mem_append_right _ List.mem_cons_self
  rcases List.append_eq_append_iff.mp heq with ⟨mid, -, hev⟩ | ⟨mid, hold, hev⟩
  · refine hevents hterminated x ?_
    rw [hev]
    exact List.mem_append_right _ (List.mem_cons_of_mem _ hmem)
  · rcases mid with _ | ⟨e, mid⟩
    · rw [List.nil_append] at hev
      refine hevents hterminated x ?_
      rw [← hev]
      exact List.mem_cons_of_mem _ hmem
    · rw [List.cons_append, List.cons.injEq] at hev
      obtain ⟨rfl, rfl⟩ := hev
      rcases List.mem_append.mp hmem with hmem | hmem
      · exact hquiet pre mid hold x hmem
      · exact hevents hterminated x hmem

/-- **The account after more events**, when the queue has changed as they say. -/
theorem Accounted.append (h : s.Accounted) (events : List (QueueEvent α))
    (hlog : s'.log = s.log ++ events)
    (hitems : events.filterMap QueueEvent.left ++ s'.queue.items =
      s.queue.items ++ events.filterMap QueueEvent.entered)
    (hdrops : s'.queue.dropCount = s.queue.dropCount + events.countP QueueEvent.isDropped)
    (hshut : s.queue.terminated = true ∨ .terminated ∈ events → s'.queue.terminated = true)
    (hquiet : s.queue.terminated = true ∨ .terminated ∈ events → ∀ x, .dequeued x ∉ events) :
    s'.Accounted where
  items := by
    have hold := h.items
    rw [removed, enqueued] at hold ⊢
    rw [hlog, List.filterMap_append, List.filterMap_append, List.append_assoc, hitems,
      ← List.append_assoc, hold]
  drops := by
    have hold := h.drops
    rw [dropped] at hold ⊢
    rw [hlog, List.countP_append, hdrops, hold]
  shut := by
    rw [hlog]
    rintro hmem
    rcases List.mem_append.mp hmem with hmem | hmem
    · exact hshut (.inl (h.shut hmem))
    · exact hshut (.inr hmem)
  quiet := h.quiet.append hlog fun hmem => hquiet ((List.mem_append.mp hmem).imp_left h.shut)

/-- **Every step keeps the account.** -/
theorem accounted_step (h : s.Accounted) (hstep : step s a = some s') : s'.Accounted := by
  rcases change_of_step hstep with ⟨hqueue, hlog, -⟩ | ⟨n, -, hqueue, hlog, -⟩ | ⟨x, -, rfl⟩ |
    ⟨x, hqueue, hlog, -⟩ | ⟨hqueue, hlog, -⟩ | ⟨hqueue, hlog, -⟩
  · refine h.append [] (by rw [hlog, List.append_nil]) ?_ ?_ ?_ ?_ <;> simp [hqueue]
  · refine h.append [] (by rw [hlog, List.append_nil]) ?_ ?_ ?_ ?_ <;>
      simp [hqueue, SafeQueue.setMaxSize]
  · refine h.append (s.queue.oldest.toList.map .dropped ++ [.enqueued x]) rfl ?_ ?_ ?_ ?_
    · have hput := s.queue.oldest_append_enqueue x
      simpa [enqueue, List.filterMap_cons, QueueEvent.left, QueueEvent.entered,
        Function.comp_def] using hput
    · have hdrops := s.queue.dropCount_enqueue x
      simpa [enqueue, QueueEvent.isDropped, Function.comp_def] using hdrops
    · simp [enqueue]
    · simp
  · obtain ⟨hopen, hopen'⟩ := SafeQueue.terminated_of_dequeue hqueue
    have hitems := SafeQueue.items_of_dequeue hqueue
    have hdrops := SafeQueue.dropCount_of_dequeue hqueue
    refine h.append _ hlog ?_ ?_ ?_ ?_
    · simp [hitems, QueueEvent.left, QueueEvent.entered]
    · simp [hdrops, QueueEvent.isDropped]
    · simp [hopen]
    · simp [hopen]
  · refine h.append _ hlog ?_ ?_ ?_ ?_
    · simp [hqueue, SafeQueue.clear, QueueEvent.left, QueueEvent.entered, Function.comp_def]
    · simp [hqueue, SafeQueue.clear, QueueEvent.isDropped, Function.comp_def]
    · simp [hqueue, SafeQueue.clear]
    · simp
  · refine h.append _ hlog ?_ ?_ ?_ ?_
    · simp [hqueue, SafeQueue.terminate, List.filterMap_cons, QueueEvent.left, QueueEvent.entered]
    · simp [hqueue, SafeQueue.terminate, QueueEvent.isDropped]
    · simp [hqueue, SafeQueue.terminate]
    · simp

theorem accounted_run {as : List (QueueAction α)} (hrun : runFrom step start as = some s) :
    s.Accounted :=
  runFrom_invariant (fun _ _ _ => accounted_step) accounted_start hrun

/-- **A queue loses nothing and keeps the order**, whatever its threads do: what was taken out so
far and what is still there is what was put in, `drop_count_` is the number of elements dropped, as
far as a `uint64_t` tells it, and nothing is handed out after `terminate`. -/
theorem items_conserved {as : List (QueueAction α)} (hrun : runFrom step start as = some s) :
    s.removed ++ s.queue.items = s.enqueued ∧ s.queue.getDropCount.toNat = s.dropped % 2 ^ 64 ∧
      s.QuietAfterTerminate := by
  have h := accounted_run hrun
  refine ⟨h.items, ?_, h.quiet⟩
  rw [SafeQueue.getDropCount, h.drops, UInt64.toNat_ofNat']

/-- A queue of capacity 1 with two elements put in, one thread that waits for a third, and
`terminate`. -/
def twoInOne : List (QueueAction ℕ) :=
  [.setMaxSize 1, .enqueueCopy 7, .enqueueMove 8, .dequeueWaitFor 0, .dequeueWaitFor 1,
    .clearWithAction 0, .terminate, .wake 1 true, .enqueueCopy 9]

theorem items_conserved_twoInOne :
    ∃ s : SharedQueue ℕ, runFrom step start twoInOne = some s ∧ s.enqueued = [7, 8, 9] ∧
      s.removed ++ s.queue.items = s.enqueued ∧ s.queue.getDropCount.toNat = s.dropped % 2 ^ 64 ∧
      s.QuietAfterTerminate := by
  obtain ⟨s, hrun, henqueued⟩ := Option.map_eq_some_iff.mp
    (show (runFrom step start twoInOne).map enqueued = some [7, 8, 9] by decide)
  exact ⟨s, hrun, henqueued, items_conserved hrun⟩

/-- A queue that is full drops one element for each that goes in. -/
theorem exists_run_of_isFull (x : α) (n : ℕ) : ∀ {s : SharedQueue α}, s.queue.IsFull →
    ∃ s', runFrom step s (List.replicate n (.enqueueCopy x)) = some s' ∧
      s'.queue.dropCount = s.queue.dropCount + n := by
  induction n with
  | zero =>
    intro s hfull
    exact ⟨s, rfl, rfl⟩
  | succ n ih =>
    intro s hfull
    obtain ⟨s', hrun, hdrops⟩ := ih (s := s.enqueue x) (SafeQueue.isFull_enqueue hfull x)
    refine ⟨s', runFrom_cons.mpr ⟨s.enqueue x, rfl, hrun⟩, ?_⟩
    have hone : (s.enqueue x).queue.dropCount = s.queue.dropCount + 1 := by
      rw [enqueue, SafeQueue.enqueue, if_pos hfull]
    omega

/-- The counter of dropped elements wraps around. -/
theorem not_items_conserved : ¬ ∀ (as : List (QueueAction Unit)) (s : SharedQueue Unit),
    runFrom step start as = some s → s.removed ++ s.queue.items = s.enqueued ∧
      s.queue.getDropCount.toNat = s.dropped ∧ s.QuietAfterTerminate := by
  intro hall
  -- a queue of capacity 1 that is full, and as many elements more as a `uint64_t` has values
  let full : SharedQueue Unit := ⟨⟨[()], 1, 0, false⟩, fun _ => .idle, [.enqueued ()], false⟩
  have hfirst : runFrom step start [.setMaxSize 1, .enqueueCopy ()] = some full := rfl
  obtain ⟨s, hrest, hdrops⟩ := exists_run_of_isFull () (2 ^ 64) (s := full) (by decide)
  have hrun := runFrom_append.mpr ⟨full, hfirst, hrest⟩
  obtain ⟨-, hcount, -⟩ := hall _ s hrun
  have hdropped := (accounted_run hrun).drops
  rw [SafeQueue.getDropCount, hdropped, UInt64.toNat_ofNat'] at hcount
  have hzero : full.queue.dropCount = 0 := rfl
  omega

/-! ### The capacity -/

/-- An `enqueue` of a queue that has a capacity leaves no more elements than that. -/
def RespectsCapacity (s : SharedQueue α) (a : QueueAction α) : Prop :=
  a.isEnqueue = true → 0 < s.queue.maxSize → ∀ s', step s a = some s' →
    s'.queue.items.length ≤ s'.queue.maxSize

/-- The first `enqueue` after `SetMaxSize` finds no more elements than the new capacity. -/
def FitsWhenResized (s : SharedQueue α) (a : QueueAction α) : Prop :=
  a.isEnqueue = true → s.resized = true → 0 < s.queue.maxSize →
    s.queue.items.length ≤ s.queue.maxSize

/-- No capacity is set under the number of elements that are there. -/
def SetsNoLess (s : SharedQueue α) (a : QueueAction α) : Prop :=
  ∀ n, a = .setMaxSize n → 0 < n → s.queue.items.length ≤ n

/-- The queue has a capacity and no more elements than that. -/
def Fits (s : SharedQueue α) : Prop :=
  0 < s.queue.maxSize → s.queue.items.length ≤ s.queue.maxSize

theorem step_of_isEnqueue (ha : a.isEnqueue = true) : ∃ x, step s a = some (s.enqueue x) := by
  cases a with
  | enqueueCopy x | enqueueMove x => exact ⟨x, rfl⟩
  | _ => cases ha

theorem respectsCapacity_iff_of_isEnqueue (ha : a.isEnqueue = true) :
    s.RespectsCapacity a ↔ s.Fits := by
  obtain ⟨x, hx⟩ := step_of_isEnqueue (s := s) ha
  have hmax : (s.enqueue x).queue.maxSize = s.queue.maxSize := s.queue.maxSize_enqueue x
  constructor
  · rintro h hpos
    have hle := h ha hpos _ hx
    rw [hmax] at hle
    exact (SafeQueue.length_enqueue_le_iff hpos).mp hle
  · rintro h - hpos s' hs'
    cases hx.symm.trans hs'
    rw [hmax]
    exact SafeQueue.length_enqueue hpos (h hpos)

/-- **What fits goes on to fit**, unless a capacity is set under what is there. -/
theorem fits_step (hfits : s.Fits) (hset : s.SetsNoLess a) (hstep : step s a = some s') :
    s'.Fits := by
  rcases change_of_step hstep with ⟨hqueue, -, -⟩ | ⟨n, ha, hqueue, -, -⟩ | ⟨x, -, rfl⟩ |
    ⟨x, hqueue, -, -⟩ | ⟨hqueue, -, -⟩ | ⟨hqueue, -, -⟩
  · rwa [Fits, hqueue]
  · rw [Fits, hqueue]
    exact hset n ha
  · rintro hpos
    have hmax : (s.enqueue x).queue.maxSize = s.queue.maxSize := s.queue.maxSize_enqueue x
    rw [hmax] at hpos ⊢
    exact SafeQueue.length_enqueue hpos (hfits hpos)
  · rintro hpos
    rw [SafeQueue.maxSize_of_dequeue hqueue] at hpos ⊢
    have hle := hfits hpos
    rw [SafeQueue.items_of_dequeue hqueue, List.length_cons] at hle
    omega
  · rintro -
    rw [hqueue]
    exact Nat.zero_le _
  · rwa [Fits, hqueue]

/-- Where the capacity is not set anew, an `enqueue` has come or has come before. -/
theorem of_resized_eq_false (hstep : step s a = some s') (hresized : s'.resized = false) :
    (a.isEnqueue = true ∨ s.resized = false) ∧ s.SetsNoLess a := by
  have hset : s.SetsNoLess a := by
    rintro n rfl
    cases hstep
    cases hresized
  refine ⟨?_, hset⟩
  rcases change_of_step hstep with ⟨-, -, hold⟩ | ⟨n, -, -, -, hnew⟩ | ⟨x, ha, -⟩ |
    ⟨x, -, -, hold⟩ | ⟨-, -, hold⟩ | ⟨-, -, hold⟩
  · exact .inr (hold ▸ hresized)
  · cases hnew.symm.trans hresized
  · exact .inl ha
  · exact .inr (hold ▸ hresized)
  · exact .inr (hold ▸ hresized)
  · exact .inr (hold ▸ hresized)

/-- At a first `enqueue` after `SetMaxSize` nothing is known but what is asked. -/
theorem FitsWhenResized.fits (hok : s.FitsWhenResized a) (h : s.resized = false → s.Fits)
    (ha : a.isEnqueue = true) : s.Fits := by
  cases hresized : s.resized with
  | false => exact h hresized
  | true => exact hok ha hresized

/-- **A run respects the capacity exactly when** each first `enqueue` after `SetMaxSize` finds no
more elements than the new capacity. -/
theorem respectsCapacity_iff (as : List (QueueAction α)) :
    Guarded step RespectsCapacity start as ↔ Guarded step FitsWhenResized start as := by
  have hiff : ∀ (s : SharedQueue α) (a : QueueAction α), (s.resized = false → s.Fits) →
      (s.FitsWhenResized a ↔ s.RespectsCapacity a) := by
    rintro s a hs
    by_cases ha : a.isEnqueue = true
    · rw [respectsCapacity_iff_of_isEnqueue ha]
      exact ⟨fun h => h.fits hs ha, fun h _ _ => h⟩
    · exact iff_of_true (fun h => absurd h ha) fun h => absurd h ha
  refine (Guarded.congr_of_kept hiff ?_ ?_).symm
  · rintro s a s' hs hok hstep hresized
    obtain ⟨hbefore, hset⟩ := of_resized_eq_false hstep hresized
    exact fits_step (hbefore.elim (hok.fits hs) hs) hset hstep
  · rintro - ⟨⟩

/-- So does a run that sets no capacity under the number of elements that are there. -/
theorem respectsCapacity_of_setsNoLess {as : List (QueueAction α)}
    (h : Guarded step SetsNoLess start as) : Guarded step RespectsCapacity start as := by
  refine Guarded.imp_of_kept (I := Fits) ?_ (fun _ _ _ => fits_step) ?_ h
  · rintro s a hs - ha
    exact (respectsCapacity_iff_of_isEnqueue ha).mpr hs ha
  · rintro ⟨⟩

/-- A queue with three elements whose capacity is set to 1 keeps three. -/
theorem not_respectsCapacity : ¬ ∀ as : List (QueueAction ℕ),
    Guarded step RespectsCapacity start as := by
  intro hall
  have h := hall [.enqueueCopy 1, .enqueueCopy 2, .enqueueCopy 3, .setMaxSize 1, .enqueueCopy 4]
  have hle := ((((h.2 _ rfl).2 _ rfl).2 _ rfl).2 _ rfl).1 rfl (by decide) _ rfl
  revert hle
  decide

end SharedQueue

end DetectBase
