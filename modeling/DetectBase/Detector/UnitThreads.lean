import DetectBase.Foundations.Transition
import DetectBase.Structure.SafeQueue
import Mathlib.Data.List.Infix
import Mathlib.Logic.Function.Basic

/-!
# The threads of a unit

A unit works on the frames of its camera in four threads, each with a queue in front of it: the
inference thread takes a frame, the response thread waits for what the engine found in it, the event
thread looks for events, and the I/O worker saves the picture of an event. `Start` makes the threads
from the last one on, and `Stop` ends them from the first one on; the comment over it forbids any
other order. Each thread may come to its end by itself as well.

Whatever the threads do in between, a frame is worked on by each of them once at most and in the
order in which the camera gave them (`DetectBase.UnitThreads.handedOut_sublist`), and no queue grows
over its capacity (`DetectBase.UnitThreads.length_le_capacity`). When `Stop` has returned, all four
threads have, nothing is left in the three queues between them, and nothing is lost without a record
(`DetectBase.UnitThreads.quiet_of_idle`). The first of these rests on the order: with the last
thread stopped first, a picture may stay behind (`DetectBase.UnitThreads.leftover_of_reverse`).

A queue that has been terminated stays so. A unit that is started again after `Stop` therefore works
on nothing any more (`DetectBase.UnitThreads.handedOut_eq_of_stopped`).
-/

namespace DetectBase

/-! ### The model -/

/-- The threads of a unit, in the order in which a frame meets them. -/
inductive Stage where
  /-- `inference_thread_`. -/
  | inference : Stage
  /-- `response_thread_`. -/
  | response : Stage
  /-- `event_thread_`. -/
  | event : Stage
  /-- `io_worker_thread_`. -/
  | ioWorker : Stage
  deriving DecidableEq

namespace Stage

/-- The thread that takes what this one has worked on. -/
def next : Stage → Option Stage
  | inference => some response
  | response => some event
  | event => some ioWorker
  | ioWorker => none

/-- The runner leaves its loop when its queue has been terminated: those of the response thread and
of the event thread ask for it. -/
def breaks : Stage → Bool
  | response | event => true
  | inference | ioWorker => false

/-- The order of `Start`. -/
def startOrder : List Stage := [ioWorker, event, response, inference]

/-- The order of `Stop`. -/
def stopOrder : List Stage := [inference, response, event, ioWorker]

end Stage

/-- What a closer does to a queue, each thread being named for the queue in front of it. -/
inductive QueueOp where
  /-- `terminate`. -/
  | terminate (stage : Stage) : QueueOp
  /-- `clear_without_action`. -/
  | clear (stage : Stage) : QueueOp
  deriving DecidableEq

/-- **The closers**: `InferenceThreadCloser`, `ResponseThreadCloser`, `EventThreadCloser` and
`IOWorkerThreadCloser`. -/
def Stage.closer : Stage → List QueueOp
  | inference => [.terminate inference, .clear inference, .terminate response]
  | response => [.clear response, .terminate event]
  | event => [.clear event]
  | ioWorker => [.terminate ioWorker, .clear ioWorker]

/-- Where the runner of a thread stands. -/
inductive Runner (α : Type) where
  /-- There is no thread, or it has returned. -/
  | finished : Runner α
  /-- Before the loop, where the inference thread subscribes to the engine and makes its client. -/
  | preparing : Runner α
  /-- It is going to read the flag. -/
  | head : Runner α
  /-- In `dequeue_wait_for`. -/
  | waiting : Runner α
  /-- It got nothing, and is going to ask whether the queue has been terminated. -/
  | refused : Runner α
  /-- It works on a frame, which it has sent to the next thread or not. -/
  | working (x : α) (sent : Bool) : Runner α

/-- How an element left a queue. -/
inductive Exit where
  /-- It was handed out to the runner. -/
  | handedOut : Exit
  /-- It was dropped to make room. -/
  | dropped : Exit
  /-- It was cleared away by a closer. -/
  | cleared : Exit
  deriving DecidableEq

/-- Where the owner of the unit stands. -/
inductive UnitOwner where
  /-- Outside of `Start` and `Stop`. -/
  | idle : UnitOwner
  /-- In `Start`, with the threads that are to be started. -/
  | starting (rest : List Stage) : UnitOwner
  /-- In `Stop`, with the threads that are to be stopped. -/
  | stopping (rest : List Stage) : UnitOwner
  /-- In the closer of a thread. -/
  | closing (stage : Stage) (ops : List QueueOp) (rest : List Stage) : UnitOwner
  /-- Joining a thread. -/
  | joining (stage : Stage) (rest : List Stage) : UnitOwner

/-- **A unit with its threads.** -/
structure UnitThreads (α : Type) where
  /-- `is_running_` of each thread. -/
  running : Stage → Bool
  /-- The runners. -/
  runner : Stage → Runner α
  /-- The queues, each with the thread that takes from it. -/
  queue : Stage → SafeQueue α
  /-- The owner. -/
  owner : UnitOwner
  /-- What has been put in each queue, for the statements only. -/
  entered : Stage → List α
  /-- What has left each queue, for the statements only. -/
  left : Stage → List (Exit × α)

/-- A step of the camera, of the owner or of a runner. -/
inductive UnitAct (α : Type) where
  /-- The camera gives a frame. -/
  | frame (x : α) : UnitAct α
  /-- `Start` is called. -/
  | callStart : UnitAct α
  /-- `Stop` is called. -/
  | callStop : UnitAct α
  /-- The owner goes on in `Start` or `Stop`. -/
  | owner : UnitAct α
  /-- The inference thread comes to its loop. -/
  | prepared : UnitAct α
  /-- The inference thread returns before its loop. -/
  | giveUp : UnitAct α
  /-- A runner reads its flag. -/
  | check (stage : Stage) : UnitAct α
  /-- `dequeue_wait_for` returns. -/
  | dequeue (stage : Stage) : UnitAct α
  /-- A runner that got nothing goes on. -/
  | resume (stage : Stage) : UnitAct α
  /-- A runner puts its frame in the next queue. -/
  | send (stage : Stage) : UnitAct α
  /-- A runner is done with its frame. -/
  | done (stage : Stage) : UnitAct α

namespace UnitThreads

variable {α : Type}

/-- The capacities that `Init` sets. -/
def capacity (detectFpsLimit : ℕ) : Stage → ℕ
  | .inference => 2 * detectFpsLimit
  | .response => 10
  | .event => 10
  | .ioWorker => 30

/-- A unit after `Init`. -/
def new (detectFpsLimit : ℕ) : UnitThreads α where
  running _ := false
  runner _ := .finished
  queue stage := .new (capacity detectFpsLimit stage)
  owner := .idle
  entered _ := []
  left _ := []

/-- The runner of a thread moves on. -/
def setRunner (u : UnitThreads α) (stage : Stage) (r : Runner α) : UnitThreads α :=
  { u with runner := Function.update u.runner stage r }

/-- An `enqueue` on the queue of a thread. -/
def enqueue (u : UnitThreads α) (stage : Stage) (x : α) : UnitThreads α :=
  { u with
    queue := Function.update u.queue stage ((u.queue stage).enqueue x)
    entered := Function.update u.entered stage (u.entered stage ++ [x])
    left := Function.update u.left stage
      (u.left stage ++ (u.queue stage).oldest.toList.map fun y => (.dropped, y)) }

/-- `exchange( true )` of `SafeThread::Start`, and the new thread if the flag was not set. -/
def startThread (u : UnitThreads α) (stage : Stage) : UnitThreads α :=
  if u.running stage then u
  else { u with
    running := Function.update u.running stage true
    runner := Function.update u.runner stage
      (if stage = .inference then .preparing else .head) }

/-- What a closer does to a queue. -/
def runOp (u : UnitThreads α) : QueueOp → UnitThreads α
  | .terminate stage =>
    { u with queue := Function.update u.queue stage (u.queue stage).terminate }
  | .clear stage =>
    { u with
      queue := Function.update u.queue stage { u.queue stage with items := [] }
      left := Function.update u.left stage
        (u.left stage ++ (u.queue stage).items.map fun y => (.cleared, y)) }

/-- **The next step of the owner.** -/
def ownerStep (u : UnitThreads α) : Option (UnitThreads α) :=
  match u.owner with
  | .idle => none
  | .starting [] => some { u with owner := .idle }
  | .starting (stage :: rest) => some { u.startThread stage with owner := .starting rest }
  | .stopping [] => some { u with owner := .idle }
  | .stopping (stage :: rest) =>
    -- `exchange( false )` of `SafeThread::Stop`
    if u.running stage then
      some { u with
        running := Function.update u.running stage false
        owner := .closing stage stage.closer rest }
    else some { u with owner := .stopping rest }
  | .closing stage [] rest => some { u with owner := .joining stage rest }
  | .closing stage (op :: ops) rest => some { u.runOp op with owner := .closing stage ops rest }
  | .joining stage rest =>
    match u.runner stage with
    | .finished => some { u with owner := .stopping rest }
    | _ => none

/-- **A step**, with the order in which `Stop` takes the threads. -/
def step (stopOrder : List Stage) (u : UnitThreads α) : UnitAct α → Option (UnitThreads α)
  | .frame x => some (u.enqueue .inference x)
  | .callStart =>
    match u.owner with
    | .idle => some { u with owner := .starting Stage.startOrder }
    | _ => none
  | .callStop =>
    match u.owner with
    | .idle => some { u with owner := .stopping stopOrder }
    | _ => none
  | .owner => u.ownerStep
  | .prepared =>
    match u.runner .inference with
    | .preparing => some (u.setRunner .inference .head)
    | _ => none
  | .giveUp =>
    match u.runner .inference with
    | .preparing => some (u.setRunner .inference .finished)
    | _ => none
  | .check stage =>
    match u.runner stage with
    | .head => some (u.setRunner stage (if u.running stage then .waiting else .finished))
    | _ => none
  | .dequeue stage =>
    match u.runner stage with
    | .waiting =>
      match (u.queue stage).dequeue with
      | some (x, q) =>
        some { u.setRunner stage (.working x false) with
          queue := Function.update u.queue stage q
          left := Function.update u.left stage (u.left stage ++ [(.handedOut, x)]) }
      | none => some (u.setRunner stage .refused)
    | _ => none
  | .resume stage =>
    match u.runner stage with
    | .refused =>
      some (u.setRunner stage
        (if stage.breaks && (u.queue stage).terminated then .finished else .head))
    | _ => none
  | .send stage =>
    match u.runner stage, stage.next with
    | .working x false, some next => some ((u.enqueue next x).setRunner stage (.working x true))
    | _, _ => none
  | .done stage =>
    match u.runner stage with
    | .working _ _ => some (u.setRunner stage .head)
    | _ => none

/-- What has been handed out to the runner of a thread. -/
def handedOut (u : UnitThreads α) (stage : Stage) : List α :=
  (u.left stage).filterMap fun e => if e.1 = .handedOut then some e.2 else none

/-! ### What happens to the frames -/

/-- The frame that a runner has not sent on yet. -/
def pending (u : UnitThreads α) (stage : Stage) : List α :=
  match u.runner stage with
  | .working x false => [x]
  | _ => []

/-- **What holds of the frames**, whatever the owner does. -/
structure Flow (detectFpsLimit : ℕ) (u : UnitThreads α) : Prop where
  /-- What has been put in a queue has left it in the same order, or is still there. -/
  conserved : ∀ stage, u.entered stage = (u.left stage).map Prod.snd ++ (u.queue stage).items
  /-- What has been put in the next queue had been handed out before, in the same order. -/
  inOrder : ∀ stage next, stage.next = some next →
    (u.entered next ++ u.pending stage).Sublist (u.handedOut stage)
  /-- The capacities stay. -/
  maxSize : ∀ stage, (u.queue stage).maxSize = capacity detectFpsLimit stage
  /-- The queues between the threads stay within them. -/
  length : ∀ stage, stage ≠ .inference →
    (u.queue stage).items.length ≤ capacity detectFpsLimit stage

theorem flow_new (fps : ℕ) : Flow fps (new fps : UnitThreads α) where
  conserved _ := rfl
  inOrder _ _ _ := List.Sublist.refl _
  maxSize _ := rfl
  length _ _ := Nat.zero_le _

theorem handedOut_sublist_left (u : UnitThreads α) (stage : Stage) :
    (u.handedOut stage).Sublist ((u.left stage).map Prod.snd) := by
  rw [handedOut]
  induction u.left stage with
  | nil => exact List.Sublist.refl _
  | cons e l ih =>
    rw [List.filterMap_cons, List.map_cons]
    split_ifs with he
    · exact ih.cons_cons _
    · exact ih.cons _

/-- The runner of a thread is handed what has been put in its queue, in the same order. -/
theorem Flow.sublist_entered {fps : ℕ} {u : UnitThreads α} (h : Flow fps u) (stage : Stage) :
    (u.handedOut stage).Sublist (u.entered stage) := by
  rw [h.conserved]
  exact (u.handedOut_sublist_left stage).trans (List.sublist_append_left _ _)

variable {fps : ℕ} {u : UnitThreads α}

theorem pending_setRunner (u : UnitThreads α) (stage stage' : Stage) {r : Runner α}
    (hr : ∀ x, r ≠ .working x false) :
    (u.setRunner stage r).pending stage' = if stage' = stage then [] else u.pending stage' := by
  rw [pending, setRunner]
  rcases eq_or_ne stage' stage with rfl | hne
  · simp only [Function.update_self, if_true]
  · simp only [Function.update_of_ne hne, if_neg hne, pending]

/-- A runner that gives its frame up, or has none, changes nothing. -/
theorem Flow.setRunner (h : Flow fps u) (stage : Stage) {r : Runner α}
    (hr : ∀ x, r ≠ .working x false) : Flow fps (u.setRunner stage r) where
  conserved := h.conserved
  inOrder s t hnext := by
    rw [pending_setRunner u stage s hr]
    split_ifs
    · rw [List.append_nil]
      exact (List.sublist_append_left _ _).trans (h.inOrder s t hnext)
    · exact h.inOrder s t hnext
  maxSize := h.maxSize
  length := h.length

/-- The owner changes nothing where it stands. -/
theorem Flow.of_owner (h : Flow fps u) (running : Stage → Bool) (owner : UnitOwner) :
    Flow fps { u with running, owner } :=
  ⟨h.conserved, h.inOrder, h.maxSize, h.length⟩

theorem Flow.startThread (h : Flow fps u) (stage : Stage) : Flow fps (u.startThread stage) := by
  rw [UnitThreads.startThread]
  by_cases hrun : u.running stage = true
  · rw [if_pos hrun]
    exact h
  · rw [if_neg hrun]
    have hr : ∀ x, (if stage = .inference then Runner.preparing else .head : Runner α) ≠
        .working x false := by
      intro x
      split_ifs <;> exact fun hc => by cases hc
    exact (h.setRunner stage hr).of_owner (Function.update u.running stage true) u.owner

/-- The queue of a thread after an `enqueue` on it, or on another one. -/
theorem handedOut_enqueue (u : UnitThreads α) (stage stage' : Stage) (x : α) :
    (u.enqueue stage x).handedOut stage' = u.handedOut stage' := by
  rw [handedOut, handedOut, enqueue]
  rcases eq_or_ne stage' stage with rfl | hne
  · simp only [Function.update_self, List.filterMap_append]
    have hnone : (((u.queue stage').oldest.toList.map fun y => (Exit.dropped, y)).filterMap
        fun e => if e.1 = .handedOut then some e.2 else none) = [] := by
      rw [List.filterMap_map]
      exact List.filterMap_eq_nil_iff.mpr fun _ _ => rfl
    rw [hnone, List.append_nil]
  · simp only [Function.update_of_ne hne]

/-- What has been put in the queues after one more `enqueue`. -/
theorem entered_enqueue (u : UnitThreads α) (stage stage' : Stage) (x : α) :
    (u.enqueue stage x).entered stage' =
      if stage' = stage then u.entered stage ++ [x] else u.entered stage' := by
  rw [enqueue]
  rcases eq_or_ne stage' stage with rfl | hne
  · simp
  · simp [hne]

/-- An `enqueue` keeps the three facts that are about queues alone. -/
theorem Flow.conserved_enqueue (h : Flow fps u) (stage : Stage) (x : α) (s : Stage) :
    (u.enqueue stage x).entered s =
      ((u.enqueue stage x).left s).map Prod.snd ++ ((u.enqueue stage x).queue s).items := by
  rw [enqueue]
  rcases eq_or_ne s stage with rfl | hne
  · simp only [Function.update_self, List.map_append, List.map_map]
    rw [h.conserved, List.append_assoc, List.append_assoc,
      ← SafeQueue.oldest_append_enqueue (u.queue s) x]
    congr 2
    exact (List.map_id _).symm
  · simp only [Function.update_of_ne hne]
    exact h.conserved s

theorem Flow.maxSize_enqueue (h : Flow fps u) (stage : Stage) (x : α) (s : Stage) :
    ((u.enqueue stage x).queue s).maxSize = capacity fps s := by
  rw [enqueue]
  rcases eq_or_ne s stage with rfl | hne
  · simp only [Function.update_self, SafeQueue.maxSize_enqueue]
    exact h.maxSize s
  · simp only [Function.update_of_ne hne]
    exact h.maxSize s

theorem capacity_pos (fps : ℕ) {s : Stage} (hs : s ≠ .inference) : 0 < capacity fps s := by
  rcases s with _ | _ | _ | _
  · exact absurd rfl hs
  all_goals exact Nat.succ_pos _

theorem Flow.length_enqueue (h : Flow fps u) (stage : Stage) (x : α) (s : Stage)
    (hs : s ≠ .inference) : ((u.enqueue stage x).queue s).items.length ≤ capacity fps s := by
  rw [enqueue]
  rcases eq_or_ne s stage with rfl | hne
  · simp only [Function.update_self]
    have hmax := h.maxSize s
    rw [← hmax]
    exact SafeQueue.length_enqueue (hmax ▸ capacity_pos fps hs) (hmax ▸ h.length s hs)
  · simp only [Function.update_of_ne hne]
    exact h.length s hs

/-- **The camera gives a frame.** -/
theorem Flow.frame (h : Flow fps u) (x : α) : Flow fps (u.enqueue .inference x) where
  conserved := h.conserved_enqueue _ x
  inOrder s t hnext := by
    have ht : t ≠ .inference := by
      rintro rfl
      rcases s with _ | _ | _ | _ <;> cases hnext
    rw [handedOut_enqueue, entered_enqueue, if_neg ht]
    exact h.inOrder s t hnext
  maxSize := h.maxSize_enqueue _ x
  length := h.length_enqueue _ x

/-- **A runner sends its frame on.** -/
theorem Flow.send (h : Flow fps u) {stage next : Stage} {x : α}
    (hrunner : u.runner stage = .working x false) (hnext : stage.next = some next) :
    Flow fps ((u.enqueue next x).setRunner stage (.working x true)) where
  conserved := h.conserved_enqueue _ x
  inOrder s t hst := by
    have hpending := pending_setRunner (u.enqueue next x) stage s
      (r := .working x true) fun y hy => by cases hy
    rw [hpending]
    show ((u.enqueue next x).entered t ++ _).Sublist ((u.enqueue next x).handedOut s)
    rw [handedOut_enqueue, entered_enqueue]
    have hin := h.inOrder s t hst
    rcases eq_or_ne s stage with rfl | hne
    · obtain rfl : t = next := by
        rw [hnext] at hst
        exact (Option.some.inj hst).symm
      rw [if_pos rfl, if_pos rfl, List.append_nil]
      rwa [pending, hrunner] at hin
    · have ht : t ≠ next := by
        rintro rfl
        rcases s with _ | _ | _ | _ <;> rcases stage with _ | _ | _ | _ <;>
          first | exact hne rfl | (rw [← hnext] at hst; cases hst)
      rw [if_neg ht, if_neg hne]
      exact hin
  maxSize := h.maxSize_enqueue _ x
  length := h.length_enqueue _ x

/-- What a closer takes out of a queue is recorded. -/
theorem Flow.runOp (h : Flow fps u) (op : QueueOp) : Flow fps (u.runOp op) := by
  rcases op with stage | stage
  · have hqueue : ∀ s, ((u.runOp (.terminate stage)).queue s).items = (u.queue s).items ∧
        ((u.runOp (.terminate stage)).queue s).maxSize = (u.queue s).maxSize := by
      intro s
      rw [UnitThreads.runOp]
      rcases eq_or_ne s stage with rfl | hne
      · simp [SafeQueue.terminate]
      · simp [hne]
    refine ⟨fun s => ?_, h.inOrder, fun s => ?_, fun s hs => ?_⟩
    · rw [(hqueue s).1]
      exact h.conserved s
    · rw [(hqueue s).2]
      exact h.maxSize s
    · rw [(hqueue s).1]
      exact h.length s hs
  · have hleft : ∀ s, (u.runOp (.clear stage)).left s = u.left s ++
        if s = stage then (u.queue stage).items.map fun y => (.cleared, y) else [] := by
      intro s
      rw [UnitThreads.runOp]
      rcases eq_or_ne s stage with rfl | hne
      · simp
      · simp [hne]
    have hitems : ∀ s, ((u.runOp (.clear stage)).queue s).items =
        if s = stage then [] else (u.queue s).items := by
      intro s
      rw [UnitThreads.runOp]
      rcases eq_or_ne s stage with rfl | hne
      · simp
      · simp [hne]
    refine ⟨fun s => ?_, fun s t hst => ?_, fun s => ?_, fun s hs => ?_⟩
    · rw [hleft, hitems, List.map_append]
      show u.entered s = _
      rw [h.conserved, List.append_assoc]
      split_ifs with heq
      · subst heq
        rw [List.append_nil, List.map_map]
        exact congrArg _ (List.map_id _).symm
      · rfl
    · have hout : (u.runOp (.clear stage)).handedOut s = u.handedOut s := by
        rw [handedOut, handedOut, hleft, List.filterMap_append]
        have hnone : ((if s = stage then (u.queue stage).items.map fun y => (Exit.cleared, y)
            else []).filterMap fun e => if e.1 = .handedOut then some e.2 else none) = [] := by
          split_ifs
          · rw [List.filterMap_map]
            exact List.filterMap_eq_nil_iff.mpr fun _ _ => rfl
          · rfl
        rw [hnone, List.append_nil]
      rw [hout]
      exact h.inOrder s t hst
    · rw [UnitThreads.runOp]
      rcases eq_or_ne s stage with rfl | hne
      · simp only [Function.update_self]
        exact h.maxSize s
      · simp only [Function.update_of_ne hne]
        exact h.maxSize s
    · rw [hitems]
      split_ifs
      · exact Nat.zero_le _
      · exact h.length s hs

/-- **A runner is handed a frame.** -/
theorem Flow.dequeue (h : Flow fps u) {stage : Stage} {x : α} {q : SafeQueue α}
    (hrunner : u.runner stage = .waiting) (hq : (u.queue stage).dequeue = some (x, q)) :
    Flow fps { u.setRunner stage (.working x false) with
      queue := Function.update u.queue stage q
      left := Function.update u.left stage (u.left stage ++ [(.handedOut, x)]) } := by
  have hitems := SafeQueue.items_of_dequeue hq
  refine ⟨fun s => ?_, fun s t hst => ?_, fun s => ?_, fun s hs => ?_⟩
  · show u.entered s = _
    rw [h.conserved]
    rcases eq_or_ne s stage with rfl | hne
    · simp only [Function.update_self, hitems, List.map_append, List.append_assoc]
      rfl
    · simp only [Function.update_of_ne hne]
  · have hin := h.inOrder s t hst
    show (u.entered t ++ pending _ s).Sublist (handedOut _ s)
    rcases eq_or_ne s stage with rfl | hne
    · rw [pending, hrunner, List.append_nil] at hin
      rw [pending, handedOut]
      simp only [UnitThreads.setRunner, Function.update_self, List.filterMap_append]
      exact hin.append (List.Sublist.refl [x])
    · rw [pending] at hin ⊢
      rw [handedOut] at hin ⊢
      simp only [UnitThreads.setRunner, Function.update_of_ne hne]
      exact hin
  · rcases eq_or_ne s stage with rfl | hne
    · simp only [Function.update_self]
      rw [SafeQueue.maxSize_of_dequeue hq]
      exact h.maxSize s
    · simp only [Function.update_of_ne hne]
      exact h.maxSize s
  · rcases eq_or_ne s stage with rfl | hne
    · simp only [Function.update_self]
      have hlength := h.length s hs
      rw [hitems, List.length_cons] at hlength
      omega
    · simp only [Function.update_of_ne hne]
      exact h.length s hs

/-- **Every step keeps what holds of the frames.** -/
theorem Flow.step {stopOrder : List Stage} {u' : UnitThreads α} {a : UnitAct α} (h : Flow fps u)
    (hs : u.step stopOrder a = some u') : Flow fps u' := by
  rcases a with x | _ | _ | _ | _ | _ | stage | stage | stage | stage | stage <;>
    rw [UnitThreads.step] at hs
  · cases hs
    exact h.frame x
  · split at hs <;> cases hs
    exact h.of_owner u.running _
  · split at hs <;> cases hs
    exact h.of_owner u.running _
  · rw [ownerStep] at hs
    split at hs
    · cases hs
    · cases hs
      exact h.of_owner u.running _
    · cases hs
      exact (h.startThread _).of_owner _ _
    · cases hs
      exact h.of_owner u.running _
    · split_ifs at hs
      · cases hs
        exact h.of_owner _ _
      · cases hs
        exact h.of_owner u.running _
    · cases hs
      exact h.of_owner u.running _
    · cases hs
      exact (h.runOp _).of_owner (UnitThreads.runOp _ _).running _
    · split at hs <;> cases hs
      exact h.of_owner u.running _
  · split at hs <;> cases hs
    exact h.setRunner _ fun _ hc => by cases hc
  · split at hs <;> cases hs
    exact h.setRunner _ fun _ hc => by cases hc
  · split at hs <;> cases hs
    refine h.setRunner _ fun _ hc => ?_
    split_ifs at hc
  · split at hs
    · next hrunner =>
      split at hs
      · next x q hq =>
        cases hs
        exact h.dequeue hrunner hq
      · cases hs
        exact h.setRunner _ fun _ hc => by cases hc
    · cases hs
  · split at hs <;> cases hs
    refine h.setRunner _ fun _ hc => ?_
    split_ifs at hc
  · split at hs
    · next x next hrunner hnext =>
      cases hs
      exact h.send hrunner hnext
    · cases hs
  · split at hs <;> cases hs
    exact h.setRunner _ fun _ hc => by cases hc

/-- **What holds of the frames in every run.** -/
theorem Flow.run {stopOrder : List Stage} {as : List (UnitAct α)} {u' : UnitThreads α}
    (hrun : runFrom (UnitThreads.step stopOrder) (new fps) as = some u') : Flow fps u' :=
  runFrom_invariant (fun _ _ _ h hs => h.step hs) (flow_new fps) hrun

/-- **Each thread works on frames of the camera, each once at most and in their order.** -/
theorem handedOut_sublist {stopOrder : List Stage} {as : List (UnitAct α)} {u : UnitThreads α}
    (hrun : runFrom (UnitThreads.step stopOrder) (new fps) as = some u) (stage : Stage) :
    (u.handedOut stage).Sublist (u.entered .inference) := by
  have h := Flow.run hrun
  have hnext : ∀ s t, s.next = some t → (u.handedOut t).Sublist (u.handedOut s) := fun s t hst =>
    (h.sublist_entered t).trans
      ((List.sublist_append_left _ _).trans (h.inOrder s t hst))
  have h1 : (u.handedOut .inference).Sublist (u.entered .inference) := h.sublist_entered _
  have h2 := (hnext .inference .response rfl).trans h1
  have h3 := (hnext .response .event rfl).trans h2
  rcases stage with _ | _ | _ | _
  · exact h1
  · exact h2
  · exact h3
  · exact (hnext .event .ioWorker rfl).trans h3

/-- `Start` is called and returns, and the inference thread comes to its loop. -/
def startUp : List (UnitAct ℕ) := [.callStart] ++ List.replicate 5 .owner ++ [.prepared]

/-- A thread takes an element, sends it on and is done with it. -/
def passOn (stage : Stage) : List (UnitAct ℕ) :=
  [.check stage, .dequeue stage, .send stage, .done stage]

theorem handedOut_sublist_passOn : ∃ u,
    runFrom (UnitThreads.step Stage.stopOrder) (new 5)
      (startUp ++ [.frame 7] ++ passOn .inference ++ passOn .response) = some u ∧
    u.handedOut .response = [7] ∧ (u.handedOut .response).Sublist (u.entered .inference) := by
  have hend : (runFrom (UnitThreads.step Stage.stopOrder) (new 5)
      (startUp ++ [.frame 7] ++ passOn .inference ++ passOn .response)).map
        (·.handedOut .response) = some [7] := rfl
  obtain ⟨u, hrun, hout⟩ := Option.map_eq_some_iff.mp hend
  exact ⟨u, hrun, hout, handedOut_sublist hrun .response⟩

/-- **The queues between the threads stay within their capacities.** -/
theorem length_le_capacity {stopOrder : List Stage} {as : List (UnitAct α)} {u : UnitThreads α}
    (hrun : runFrom (UnitThreads.step stopOrder) (new fps) as = some u) {stage : Stage}
    (hstage : stage ≠ .inference) : (u.queue stage).items.length ≤ capacity fps stage :=
  (Flow.run hrun).length stage hstage

/-- Twelve frames are sent on to a thread that does not come to its queue, which has place for ten
of them and drops the others. -/
theorem length_le_capacity_passOn : ∃ u,
    runFrom (UnitThreads.step Stage.stopOrder) (new 5)
      (startUp ++ (List.range 12).flatMap fun n => .frame n :: passOn .inference) = some u ∧
    (u.queue .response).items = [2, 3, 4, 5, 6, 7, 8, 9, 10, 11] ∧
    u.left .response = [(.dropped, 0), (.dropped, 1)] ∧
    (u.queue .response).items.length ≤ capacity 5 .response := by
  have hend : (runFrom (UnitThreads.step Stage.stopOrder) (new 5)
      (startUp ++ (List.range 12).flatMap fun n => .frame n :: passOn .inference)).map
        (fun u => ((u.queue .response).items, u.left .response)) =
      some ([2, 3, 4, 5, 6, 7, 8, 9, 10, 11], [(.dropped, 0), (.dropped, 1)]) := by
    decide +kernel
  obtain ⟨u, hrun, hu⟩ := Option.map_eq_some_iff.mp hend
  obtain ⟨hitems, hleft⟩ := Prod.ext_iff.mp hu
  exact ⟨u, hrun, hitems, hleft, length_le_capacity hrun nofun⟩

/-! ### What a step that is not the owner's can change -/

/-- What the owner can rely on while the other threads move. -/
structure Interferes (u u' : UnitThreads α) : Prop where
  /-- The owner stays where it is. -/
  owner : u'.owner = u.owner
  /-- Nobody else writes the flags. -/
  running : u'.running = u.running
  /-- A thread that has returned does not come back. -/
  finished : ∀ stage, u.runner stage = .finished → u'.runner stage = .finished
  /-- An empty queue stays empty when the thread that fills it has returned. -/
  items : ∀ stage, stage ≠ .inference →
    (∀ producer, producer.next = some stage → u.runner producer = .finished) →
      (u.queue stage).items = [] → (u'.queue stage).items = []
  /-- A queue that has been terminated stays so. -/
  terminated : ∀ stage, (u.queue stage).terminated = true → (u'.queue stage).terminated = true

/-- A runner that has not returned moves on. -/
theorem Interferes.of_runner {stage : Stage} (h : u.runner stage ≠ .finished) (r : Runner α) :
    Interferes u (u.setRunner stage r) where
  owner := rfl
  running := rfl
  finished s hs := by
    have hne : s ≠ stage := fun heq => h (heq ▸ hs)
    rw [UnitThreads.setRunner]
    exact (Function.update_of_ne hne _ _).trans hs
  items _ _ _ hs := hs
  terminated _ hs := hs

theorem Interferes.step {stopOrder : List Stage} {u' : UnitThreads α} {a : UnitAct α}
    (hs : u.step stopOrder a = some u') (hcall : a ≠ .callStart ∧ a ≠ .callStop ∧ a ≠ .owner) :
    Interferes u u' := by
  rcases a with x | _ | _ | _ | _ | _ | stage | stage | stage | stage | stage <;>
    rw [UnitThreads.step] at hs
  · cases hs
    refine ⟨rfl, rfl, fun _ h => h, fun s hne _ hs => ?_, fun s hs => ?_⟩
    · rw [UnitThreads.enqueue]
      simpa only [Function.update_of_ne hne] using hs
    · rw [UnitThreads.enqueue]
      rcases eq_or_ne s .inference with rfl | hne
      · simpa only [Function.update_self, SafeQueue.terminated_enqueue] using hs
      · simpa only [Function.update_of_ne hne] using hs
  · exact absurd rfl hcall.1
  · exact absurd rfl hcall.2.1
  · exact absurd rfl hcall.2.2
  · split at hs <;> cases hs
    next hrunner => exact .of_runner (by rw [hrunner]; exact fun hc => by cases hc) _
  · split at hs <;> cases hs
    next hrunner => exact .of_runner (by rw [hrunner]; exact fun hc => by cases hc) _
  · split at hs <;> cases hs
    next hrunner => exact .of_runner (by rw [hrunner]; exact fun hc => by cases hc) _
  · split at hs
    · next hrunner =>
      have hne : u.runner stage ≠ .finished := by rw [hrunner]; exact fun hc => by cases hc
      split at hs
      · next x q hq =>
        cases hs
        have hmove := Interferes.of_runner hne (.working x false)
        refine ⟨rfl, rfl, hmove.finished, fun s _ _ hs => ?_, fun s hs => ?_⟩
        · rcases eq_or_ne s stage with rfl | hne
          · rw [SafeQueue.items_of_dequeue hq] at hs
            cases hs
          · simpa only [Function.update_of_ne hne] using hs
        · rcases eq_or_ne s stage with rfl | hne
          · rw [(SafeQueue.terminated_of_dequeue hq).1] at hs
            cases hs
          · simpa only [Function.update_of_ne hne] using hs
      · cases hs
        exact .of_runner hne _
    · cases hs
  · split at hs <;> cases hs
    next hrunner => exact .of_runner (by rw [hrunner]; exact fun hc => by cases hc) _
  · split at hs
    · next x next hrunner hnext =>
      cases hs
      have hne : u.runner stage ≠ .finished := by rw [hrunner]; exact fun hc => by cases hc
      have hmove := Interferes.of_runner hne (.working x true)
      refine ⟨rfl, rfl, hmove.finished, fun s _ hproducer hs => ?_, fun s hs => ?_⟩
      · rw [UnitThreads.enqueue, UnitThreads.setRunner]
        rcases eq_or_ne s next with rfl | hne'
        · exact absurd (hproducer stage hnext) hne
        · simpa only [Function.update_of_ne hne'] using hs
      · rw [UnitThreads.enqueue, UnitThreads.setRunner]
        rcases eq_or_ne s next with rfl | hne'
        · simpa only [Function.update_self, SafeQueue.terminated_enqueue] using hs
        · simpa only [Function.update_of_ne hne'] using hs
    · cases hs
  · split at hs <;> cases hs
    next hrunner => exact .of_runner (by rw [hrunner]; exact fun hc => by cases hc) _

/-! ### Starting and stopping -/

/-- **The thread has come to its end, and there is nothing left in its queue**, unless the camera
fills it. -/
structure Ended (u : UnitThreads α) (stage : Stage) : Prop where
  /-- The flag is not set. -/
  running : u.running stage = false
  /-- The runner has returned. -/
  runner : u.runner stage = .finished
  /-- The queue is empty. -/
  items : stage ≠ .inference → (u.queue stage).items = []

/-- The queues that the closer of a thread terminates have been terminated. -/
def Closed (u : UnitThreads α) (stage : Stage) : Prop :=
  ∀ s, .terminate s ∈ stage.closer → (u.queue s).terminated = true

/-- The operations of a closer that are not left to be done have been done. -/
structure Closing (u : UnitThreads α) (stage : Stage) (ops : List QueueOp) : Prop where
  /-- The flag is not set. -/
  running : u.running stage = false
  /-- They are the last ones of the closer. -/
  suffix : ops <:+ stage.closer
  /-- The queue has been cleared. -/
  items : stage ≠ .inference → .clear stage ∉ ops → (u.queue stage).items = []
  /-- The queues have been terminated. -/
  terminated : ∀ s, .terminate s ∈ stage.closer → .terminate s ∉ ops →
    (u.queue s).terminated = true

/-- **What holds of the threads**, by where the owner stands. -/
def Lifecycle (u : UnitThreads α) : UnitOwner → Prop
  | .idle => (∀ s, u.running s = true) ∨ ∀ s, u.Ended s
  | .starting rest => rest <:+ Stage.startOrder ∧ ∀ s ∉ rest, u.running s = true
  | .stopping rest => rest <:+ Stage.stopOrder ∧ (∀ s ∉ rest, u.Ended s) ∧
    ((∀ s ∈ rest, u.running s = true) ∧ (∀ s ∉ rest, u.Closed s) ∨ ∀ s, u.Ended s)
  | .closing stage ops rest => stage :: rest <:+ Stage.stopOrder ∧
    (∀ s ∉ stage :: rest, u.Ended s ∧ u.Closed s) ∧ (∀ s ∈ rest, u.running s = true) ∧
      u.Closing stage ops
  | .joining stage rest => stage :: rest <:+ Stage.stopOrder ∧
    (∀ s ∉ stage :: rest, u.Ended s ∧ u.Closed s) ∧ (∀ s ∈ rest, u.running s = true) ∧
      u.Closing stage []

/-- **`Stop` comes to a thread after the one that fills its queue.** -/
theorem producer_notMem {rest : List Stage} (h : rest <:+ Stage.stopOrder) {s p : Stage}
    (hs : s ∉ rest) (hp : p.next = some s) : p ∉ rest := by
  have hmem : rest ∈ Stage.stopOrder.tails := (List.mem_tails _ _).mpr h
  simp only [Stage.stopOrder, List.tails, List.mem_cons, List.not_mem_nil, or_false] at hmem
  rcases hmem with rfl | rfl | rfl | rfl | rfl <;> rcases p with _ | _ | _ | _ <;> cases hp <;>
    simp_all

/-- The thread in front of the one that `Stop` has come to. -/
theorem producer_notMem_cons {stage p : Stage} {rest : List Stage}
    (h : stage :: rest <:+ Stage.stopOrder) (hp : p.next = some stage) : p ∉ stage :: rest := by
  have hmem : stage :: rest ∈ Stage.stopOrder.tails := (List.mem_tails _ _).mpr h
  simp only [Stage.stopOrder, List.tails, List.mem_cons, List.cons.injEq, List.not_mem_nil,
    or_false, reduceCtorEq] at hmem
  rcases hmem with ⟨rfl, rfl⟩ | ⟨rfl, rfl⟩ | ⟨rfl, rfl⟩ | ⟨rfl, rfl⟩ <;>
    rcases p with _ | _ | _ | _ <;> cases hp <;> simp

theorem notMem_of_suffix {stage : Stage} {rest : List Stage}
    (h : stage :: rest <:+ Stage.stopOrder) : stage ∉ rest := by
  have hnodup : Stage.stopOrder.Nodup := by decide
  exact (List.nodup_cons.mp (hnodup.sublist h.sublist)).1

variable {u' : UnitThreads α}

/-- A thread that has ended stays so, when the one that fills its queue has. -/
theorem Ended.interferes {s : Stage} (h : u.Ended s) (hi : Interferes u u')
    (hp : ∀ p, p.next = some s → u.Ended p) : u'.Ended s where
  running := (congrFun hi.running s).trans h.running
  runner := hi.finished s h.runner
  items hs := hi.items s hs (fun p hps => (hp p hps).runner) (h.items hs)

theorem Closed.interferes {s : Stage} (h : u.Closed s) (hi : Interferes u u') : u'.Closed s :=
  fun t ht => hi.terminated t (h t ht)

theorem Closing.interferes {s : Stage} {ops : List QueueOp} (h : u.Closing s ops)
    (hi : Interferes u u') (hp : ∀ p, p.next = some s → u.Ended p) : u'.Closing s ops where
  running := (congrFun hi.running s).trans h.running
  suffix := h.suffix
  items hs hops := hi.items s hs (fun p hps => (hp p hps).runner) (h.items hs hops)
  terminated t ht hops := hi.terminated t (h.terminated t ht hops)

/-- **The other threads keep what the owner relies on.** -/
theorem Lifecycle.interferes (h : u.Lifecycle u.owner) (hi : Interferes u u') :
    u'.Lifecycle u'.owner := by
  have hrunning : ∀ s, u.running s = true → u'.running s = true := fun s hs =>
    (congrFun hi.running s).trans hs
  rw [hi.owner]
  revert h
  rcases u.owner with _ | rest | rest | ⟨stage, ops, rest⟩ | ⟨stage, rest⟩
  · rintro (h | h)
    · exact Or.inl fun s => hrunning s (h s)
    · exact Or.inr fun s => (h s).interferes hi fun p _ => h p
  · exact fun h => ⟨h.1, fun s hs => hrunning s (h.2 s hs)⟩
  · rintro ⟨hsuffix, hended, hmode⟩
    refine ⟨hsuffix, fun s hs => (hended s hs).interferes hi fun p hp =>
      hended p (producer_notMem hsuffix hs hp), ?_⟩
    rcases hmode with ⟨hrun, hclosed⟩ | hall
    · exact Or.inl ⟨fun s hs => hrunning s (hrun s hs), fun s hs => (hclosed s hs).interferes hi⟩
    · exact Or.inr fun s => (hall s).interferes hi fun p _ => hall p
  all_goals
    rintro ⟨hsuffix, hended, hrun, hclosing⟩
    refine ⟨hsuffix, fun s hs => ⟨(hended s hs).1.interferes hi fun p hp =>
      (hended p (producer_notMem hsuffix hs hp)).1, (hended s hs).2.interferes hi⟩,
      fun s hs => hrunning s (hrun s hs), hclosing.interferes hi fun p hp =>
        (hended p (producer_notMem_cons hsuffix hp)).1⟩

theorem Ended.of_owner {s : Stage} (h : u.Ended s) (o : UnitOwner) :
    Ended { u with owner := o } s :=
  ⟨h.running, h.runner, h.items⟩

/-- Where the owner stands changes nothing by itself. -/
theorem Lifecycle.of_owner {o : UnitOwner} (h : u.Lifecycle o) (o' : UnitOwner) :
    Lifecycle { u with owner := o' } o := by
  revert h
  rcases o with _ | rest | rest | ⟨stage, ops, rest⟩ | ⟨stage, rest⟩
  · exact Or.imp_right fun h s => (h s).of_owner o'
  · exact id
  · rintro ⟨hsuffix, hended, hmode⟩
    exact ⟨hsuffix, fun s hs => (hended s hs).of_owner o', hmode.imp_right fun hall s =>
      (hall s).of_owner o'⟩
  all_goals
    rintro ⟨hsuffix, hended, hrun, hclosing⟩
    exact ⟨hsuffix, fun s hs => ⟨(hended s hs).1.of_owner o', (hended s hs).2⟩, hrun,
      hclosing.running, hclosing.suffix, hclosing.items, hclosing.terminated⟩

/-- `Start` comes to a thread. -/
theorem Lifecycle.startThread {stage : Stage} {rest : List Stage}
    (h : u.Lifecycle (.starting (stage :: rest))) :
    (u.startThread stage).Lifecycle (.starting rest) := by
  obtain ⟨hsuffix, hrun⟩ := h
  refine ⟨(List.suffix_cons stage rest).trans hsuffix, fun s hs => ?_⟩
  rw [UnitThreads.startThread]
  rcases eq_or_ne s stage with rfl | hne
  · by_cases hset : u.running s = true
    · rw [if_pos hset]
      exact hset
    · rw [if_neg hset]
      exact Function.update_self s true u.running
  · have hkeep := hrun s fun hmem => (List.mem_cons.mp hmem).elim hne hs
    by_cases hset : u.running stage = true
    · rw [if_pos hset]
      exact hkeep
    · rw [if_neg hset]
      exact (Function.update_of_ne hne true u.running).trans hkeep

/-- `Stop` comes to a thread that is to run. -/
theorem Lifecycle.stop {stage : Stage} {rest : List Stage}
    (h : u.Lifecycle (.stopping (stage :: rest))) (hset : u.running stage = true) :
    Lifecycle { u with running := Function.update u.running stage false }
      (.closing stage stage.closer rest) := by
  obtain ⟨hsuffix, hended, ⟨hrun, hclosed⟩ | hall⟩ := h
  · refine ⟨hsuffix, fun s hs => ⟨⟨?_, (hended s hs).runner, (hended s hs).items⟩, hclosed s hs⟩,
      fun s hs => ?_, ⟨Function.update_self _ _ _, List.suffix_refl _, fun hne hmem => ?_,
        fun s hmem hnot => absurd hmem hnot⟩⟩
    · have hne : s ≠ stage := fun heq => hs (heq ▸ List.mem_cons_self)
      exact (Function.update_of_ne hne _ _).trans (hended s hs).running
    · have hne : s ≠ stage := fun heq => notMem_of_suffix hsuffix (heq ▸ hs)
      exact (Function.update_of_ne hne _ _).trans (hrun s (List.mem_cons_of_mem _ hs))
    · -- every closer but the first clears the queue in front of its own thread
      refine absurd ?_ hmem
      rcases stage with _ | _ | _ | _
      · exact absurd rfl hne
      · exact List.mem_cons_self
      · exact List.mem_cons_self
      · exact List.mem_cons_of_mem _ List.mem_cons_self
  · rw [(hall stage).running] at hset
    cases hset

/-- `Stop` comes to a thread that is not to run. -/
theorem Lifecycle.skip {stage : Stage} {rest : List Stage}
    (h : u.Lifecycle (.stopping (stage :: rest))) (hset : u.running stage ≠ true) :
    u.Lifecycle (.stopping rest) := by
  obtain ⟨hsuffix, -, ⟨hrun, -⟩ | hall⟩ := h
  · exact absurd (hrun stage List.mem_cons_self) hset
  · exact ⟨(List.suffix_cons stage rest).trans hsuffix, fun s _ => hall s, Or.inr hall⟩

theorem Ended.runOp {s : Stage} (h : u.Ended s) (op : QueueOp) : (u.runOp op).Ended s := by
  rcases op with t | t <;> refine ⟨h.running, h.runner, fun hs => ?_⟩ <;>
    rw [UnitThreads.runOp] <;> rcases eq_or_ne s t with rfl | hne
  · simpa only [Function.update_self, SafeQueue.terminate] using h.items hs
  · simpa only [Function.update_of_ne hne] using h.items hs
  · simp only [Function.update_self]
  · simpa only [Function.update_of_ne hne] using h.items hs

theorem terminated_runOp (op : QueueOp) {s : Stage} (h : (u.queue s).terminated = true) :
    ((u.runOp op).queue s).terminated = true := by
  rcases op with t | t <;> rw [UnitThreads.runOp] <;> rcases eq_or_ne s t with rfl | hne
  · simp only [Function.update_self, SafeQueue.terminate]
  · simpa only [Function.update_of_ne hne] using h
  · simpa only [Function.update_self] using h
  · simpa only [Function.update_of_ne hne] using h

/-- **A closer goes on.** -/
theorem Closing.runOp {stage : Stage} {op : QueueOp} {ops : List QueueOp}
    (h : u.Closing stage (op :: ops)) : (u.runOp op).Closing stage ops where
  running := by
    rcases op with t | t <;> exact h.running
  suffix := (List.suffix_cons op ops).trans h.suffix
  items hne hops := by
    by_cases hop : op = .clear stage
    · rw [hop, UnitThreads.runOp]
      simp only [Function.update_self]
    · have hkeep := h.items hne fun hmem => (List.mem_cons.mp hmem).elim (fun heq => hop heq.symm)
        hops
      rcases op with t | t <;> rw [UnitThreads.runOp] <;> rcases eq_or_ne stage t with rfl | hne'
      · simpa only [Function.update_self, SafeQueue.terminate] using hkeep
      · simpa only [Function.update_of_ne hne'] using hkeep
      · exact absurd rfl hop
      · simpa only [Function.update_of_ne hne'] using hkeep
  terminated s hmem hops := by
    by_cases hop : op = .terminate s
    · rw [hop, UnitThreads.runOp]
      simp only [Function.update_self, SafeQueue.terminate]
    · exact terminated_runOp op (h.terminated s hmem fun hin =>
        (List.mem_cons.mp hin).elim (fun heq => hop heq.symm) hops)

/-- **The owner keeps what holds of the threads.** -/
theorem Lifecycle.ownerStep {u' : UnitThreads α} (h : u.Lifecycle u.owner)
    (hs : u.ownerStep = some u') : u'.Lifecycle u'.owner := by
  rw [UnitThreads.ownerStep] at hs
  split at hs <;> rename_i howner <;> rw [howner] at h
  · cases hs
  · cases hs
    have hidle : u.Lifecycle .idle := Or.inl fun s => h.2 s List.not_mem_nil
    exact hidle.of_owner .idle
  · cases hs
    exact h.startThread.of_owner _
  · cases hs
    have hidle : u.Lifecycle .idle := Or.inr fun s => h.2.1 s List.not_mem_nil
    exact hidle.of_owner .idle
  · split_ifs at hs with hset
    · cases hs
      exact (h.stop hset).of_owner _
    · cases hs
      exact (h.skip hset).of_owner _
  · next stage rest =>
    cases hs
    have hjoining : u.Lifecycle (.joining stage rest) := h
    exact hjoining.of_owner _
  · next stage op ops rest =>
    cases hs
    have hclosing : (u.runOp op).Lifecycle (.closing stage ops rest) := by
      obtain ⟨hsuffix, hended, hrun, hclosing⟩ := h
      refine ⟨hsuffix, fun s hs => ⟨(hended s hs).1.runOp op, fun t ht =>
        terminated_runOp op ((hended s hs).2 t ht)⟩, fun s hs => ?_, hclosing.runOp⟩
      rcases op with t | t <;> exact hrun s hs
    exact hclosing.of_owner _
  · next stage rest =>
    split at hs
    · next hfinished =>
      cases hs
      obtain ⟨hsuffix, hended, hrun, hclosing⟩ := h
      have hclosed : u.Ended stage ∧ u.Closed stage :=
        ⟨⟨hclosing.running, hfinished, fun hne => hclosing.items hne List.not_mem_nil⟩,
          fun t ht => hclosing.terminated t ht List.not_mem_nil⟩
      have hall : ∀ s ∉ rest, u.Ended s ∧ u.Closed s := by
        intro s hs
        by_cases heq : s = stage
        · exact heq ▸ hclosed
        · exact hended s fun hmem => (List.mem_cons.mp hmem).elim heq hs
      have hstopping : u.Lifecycle (.stopping rest) :=
        ⟨(List.suffix_cons stage rest).trans hsuffix, fun s hs => (hall s hs).1,
          Or.inl ⟨hrun, fun s hs => (hall s hs).2⟩⟩
      exact hstopping.of_owner _
    · cases hs

/-- **Every step keeps what holds of the threads.** -/
theorem Lifecycle.step {u' : UnitThreads α} {a : UnitAct α} (h : u.Lifecycle u.owner)
    (hs : u.step Stage.stopOrder a = some u') : u'.Lifecycle u'.owner := by
  by_cases hcall : a ≠ .callStart ∧ a ≠ .callStop ∧ a ≠ .owner
  · exact h.interferes (.step hs hcall)
  · rcases a with x | _ | _ | _ | _ | _ | stage | stage | stage | stage | stage
    · exact absurd ⟨nofun, nofun, nofun⟩ hcall
    · rw [UnitThreads.step] at hs
      split at hs <;> cases hs
      exact ⟨List.suffix_refl _, fun s hs => absurd (by rcases s with _ | _ | _ | _ <;> decide) hs⟩
    · rw [UnitThreads.step] at hs
      split at hs <;> rename_i howner <;> cases hs
      rw [howner] at h
      have hmem : ∀ s : Stage, s ∈ Stage.stopOrder := fun s => by
        rcases s with _ | _ | _ | _ <;> decide
      have hstopping : u.Lifecycle (.stopping Stage.stopOrder) :=
        ⟨List.suffix_refl _, fun s hs => absurd (hmem s) hs, h.imp_left fun h =>
          ⟨fun s _ => h s, fun s hs => absurd (hmem s) hs⟩⟩
      exact hstopping.of_owner _
    · exact h.ownerStep hs
    all_goals exact absurd ⟨nofun, nofun, nofun⟩ hcall

theorem lifecycle_new : (new fps : UnitThreads α).Lifecycle .idle :=
  Or.inr fun _ => ⟨rfl, rfl, fun _ => rfl⟩

/-- **What holds of the threads in every run.** -/
theorem Lifecycle.run {as : List (UnitAct α)}
    (hrun : runFrom (UnitThreads.step Stage.stopOrder) (new fps) as = some u) :
    u.Lifecycle u.owner :=
  runFrom_invariant (I := fun v => v.Lifecycle v.owner) (fun _ _ _ h hs => h.step hs)
    lifecycle_new hrun

/-! ### After `Stop` -/

theorem handedOut_runOp (u : UnitThreads α) (op : QueueOp) (stage : Stage) :
    (u.runOp op).handedOut stage = u.handedOut stage := by
  rcases op with t | t
  · rfl
  · rw [handedOut, handedOut, UnitThreads.runOp]
    rcases eq_or_ne stage t with rfl | hne
    · simp only [Function.update_self, List.filterMap_append]
      have hnone : (((u.queue stage).items.map fun y => (Exit.cleared, y)).filterMap
          fun e => if e.1 = .handedOut then some e.2 else none) = [] := by
        rw [List.filterMap_map]
        exact List.filterMap_eq_nil_iff.mpr fun _ _ => rfl
      rw [hnone, List.append_nil]
    · simp only [Function.update_of_ne hne]

/-- A queue that has been terminated stays so. -/
theorem terminated_step {stopOrder : List Stage} {u' : UnitThreads α} {a : UnitAct α}
    (hs : u.step stopOrder a = some u') {stage : Stage}
    (h : (u.queue stage).terminated = true) : (u'.queue stage).terminated = true := by
  by_cases hcall : a ≠ .callStart ∧ a ≠ .callStop ∧ a ≠ .owner
  · exact (Interferes.step hs hcall).terminated stage h
  · rcases a with x | _ | _ | _ | _ | _ | s | s | s | s | s
    · exact absurd ⟨nofun, nofun, nofun⟩ hcall
    · rw [UnitThreads.step] at hs
      split at hs <;> cases hs
      exact h
    · rw [UnitThreads.step] at hs
      split at hs <;> cases hs
      exact h
    · rw [UnitThreads.step, UnitThreads.ownerStep] at hs
      split at hs
      · cases hs
      · cases hs
        exact h
      · next s _ _ =>
        cases hs
        show ((u.startThread s).queue stage).terminated = true
        rw [UnitThreads.startThread]
        split_ifs <;> exact h
      · cases hs
        exact h
      · split_ifs at hs <;> cases hs <;> exact h
      · cases hs
        exact h
      · cases hs
        exact terminated_runOp _ h
      · split at hs <;> cases hs
        exact h
    all_goals exact absurd ⟨nofun, nofun, nofun⟩ hcall

/-- **Only a thread that runs is handed anything**, and only from a queue that works. -/
theorem handedOut_step {stopOrder : List Stage} {u' : UnitThreads α} {a : UnitAct α}
    (hs : u.step stopOrder a = some u') {stage : Stage}
    (h : u.runner stage = .finished ∨ (u.queue stage).terminated = true) :
    u'.handedOut stage = u.handedOut stage := by
  rcases a with x | _ | _ | _ | _ | _ | s | s | s | s | s <;> rw [UnitThreads.step] at hs
  · cases hs
    exact handedOut_enqueue u .inference stage x
  · split at hs <;> cases hs
    rfl
  · split at hs <;> cases hs
    rfl
  · rw [UnitThreads.ownerStep] at hs
    split at hs
    · cases hs
    · cases hs
      rfl
    · next s _ _ =>
      cases hs
      show (u.startThread s).handedOut stage = _
      rw [UnitThreads.startThread]
      split_ifs <;> rfl
    · cases hs
      rfl
    · split_ifs at hs <;> cases hs <;> rfl
    · cases hs
      rfl
    · next op _ _ _ =>
      cases hs
      exact handedOut_runOp u op stage
    · split at hs <;> cases hs
      rfl
  · split at hs <;> cases hs
    rfl
  · split at hs <;> cases hs
    rfl
  · split at hs <;> cases hs
    rfl
  · split at hs
    · next hrunner =>
      split at hs
      · next x q hq =>
        cases hs
        have hne : stage ≠ s := by
          rintro rfl
          rcases h with h | h
          · rw [hrunner] at h
            cases h
          · rw [(SafeQueue.terminated_of_dequeue hq).1] at h
            cases h
        simp only [handedOut, Function.update_of_ne hne]
      · cases hs
        rfl
    · cases hs
  · split at hs <;> cases hs
    rfl
  · split at hs
    · next x next _ _ =>
      cases hs
      exact handedOut_enqueue u next stage x
    · cases hs
  · split at hs <;> cases hs
    rfl

/-- **All threads have ended**, and the owner is not making new ones. -/
structure Quiet (u : UnitThreads α) : Prop where
  /-- They have ended. -/
  ended : ∀ stage, u.Ended stage
  /-- The owner is outside of `Start`. -/
  owner : u.owner = .idle ∨ ∃ rest, u.owner = .stopping rest

theorem Quiet.ownerStep {u' : UnitThreads α} (h : u.Quiet) (hs : u.ownerStep = some u') :
    u'.Quiet := by
  rw [UnitThreads.ownerStep] at hs
  rcases h.owner with howner | ⟨rest, howner⟩ <;> rw [howner] at hs
  · cases hs
  · rcases rest with _ | ⟨stage, rest⟩
    · cases hs
      exact ⟨fun s => (h.ended s).of_owner _, Or.inl rfl⟩
    · simp only [(h.ended stage).running, Bool.false_eq_true, if_false] at hs
      cases hs
      exact ⟨fun s => (h.ended s).of_owner _, Or.inr ⟨rest, rfl⟩⟩

/-- **Only a call of `Start` makes threads.** -/
theorem Quiet.step {u' : UnitThreads α} {a : UnitAct α} (h : u.Quiet)
    (hs : u.step Stage.stopOrder a = some u') (ha : a ≠ .callStart) : u'.Quiet := by
  by_cases hcall : a ≠ .callStart ∧ a ≠ .callStop ∧ a ≠ .owner
  · have hi := Interferes.step hs hcall
    refine ⟨fun s => (h.ended s).interferes hi fun p _ => h.ended p, ?_⟩
    rw [hi.owner]
    exact h.owner
  · rcases a with x | _ | _ | _ | _ | _ | stage | stage | stage | stage | stage
    · exact absurd ⟨nofun, nofun, nofun⟩ hcall
    · exact absurd rfl ha
    · rw [UnitThreads.step] at hs
      split at hs <;> cases hs
      exact ⟨fun s => (h.ended s).of_owner _, Or.inr ⟨_, rfl⟩⟩
    · exact h.ownerStep hs
    all_goals exact absurd ⟨nofun, nofun, nofun⟩ hcall

/-- **Nothing moves after `Stop`**: when it returns, all threads have, the queues between them are
empty, everything that has been put in them has left them, and until the next call of `Start`
nothing is worked on. -/
theorem quiet_of_idle {as bs : List (UnitAct α)} {u' : UnitThreads α}
    (hrun : runFrom (UnitThreads.step Stage.stopOrder) (new fps) as = some u)
    (howner : u.owner = .stopping [])
    (hrest : runFrom (UnitThreads.step Stage.stopOrder) u bs = some u')
    (hbs : ∀ b ∈ bs, b ≠ .callStart) :
    (∀ stage, u'.Ended stage) ∧ (∀ stage, u'.handedOut stage = u.handedOut stage) ∧
      ∀ stage, stage ≠ .inference → u'.entered stage = (u'.left stage).map Prod.snd := by
  have hlife := Lifecycle.run hrun
  rw [howner] at hlife
  have hquiet : u.Quiet := ⟨fun s => hlife.2.1 s List.not_mem_nil, Or.inr ⟨[], howner⟩⟩
  have hguard : Guarded (UnitThreads.step Stage.stopOrder) (fun _ b => b ≠ .callStart) u bs := by
    refine guarded_iff.mpr ?_
    rintro pre b post _ rfl -
    exact hbs b (by simp)
  have hend : u'.Quiet ∧ Flow fps u' ∧ ∀ stage, u'.handedOut stage = u.handedOut stage := by
    refine hguard.invariant (I := fun v => v.Quiet ∧ Flow fps v ∧
      ∀ stage, v.handedOut stage = u.handedOut stage) ?_ ⟨hquiet, Flow.run hrun, fun _ => rfl⟩ hrest
    rintro v b v' ⟨hv, hflow, hout⟩ hb hs
    exact ⟨hv.step hs hb, hflow.step hs, fun stage =>
      (handedOut_step hs (Or.inl (hv.ended stage).runner)).trans (hout stage)⟩
  refine ⟨hend.1.ended, hend.2.2, fun stage hne => ?_⟩
  rw [hend.2.1.conserved, (hend.1.ended stage).items hne, List.append_nil]

/-- `Stop` ends a thread that is at the head of its loop. -/
def endThread (stage : Stage) : List (UnitAct ℕ) :=
  List.replicate (stage.closer.length + 2) .owner ++ [.check stage, .owner]

/-- `Start` is called, a frame comes to the queue of the response thread, and `Stop` is called. -/
def stopWithFrame : List (UnitAct ℕ) :=
  startUp ++ [.frame 7] ++ passOn .inference ++ [.callStop] ++ Stage.stopOrder.flatMap endThread

theorem quiet_of_idle_frame : ∃ u u',
    runFrom (UnitThreads.step Stage.stopOrder) (new 5) stopWithFrame = some u ∧
    runFrom (UnitThreads.step Stage.stopOrder) u [.frame 8, .owner] = some u' ∧
    (∀ stage, u'.Ended stage) ∧ (∀ stage, u'.handedOut stage = u.handedOut stage) ∧
      ∀ stage, stage ≠ .inference → u'.entered stage = (u'.left stage).map Prod.snd := by
  have hend : (runFrom (UnitThreads.step Stage.stopOrder) (new 5) stopWithFrame).map
      (·.owner) = some (.stopping []) := rfl
  have hboth : (runFrom (UnitThreads.step Stage.stopOrder) (new 5)
      (stopWithFrame ++ [.frame 8, .owner])).map (·.left .response) = some [(.cleared, 7)] := rfl
  obtain ⟨u', hrun, -⟩ := Option.map_eq_some_iff.mp hboth
  obtain ⟨u, hfirst, hrest⟩ := runFrom_append.mp hrun
  have howner : u.owner = .stopping [] := by
    rw [hfirst] at hend
    exact Option.some.inj hend
  exact ⟨u, u', hfirst, hrest, quiet_of_idle hfirst howner hrest (by simp)⟩

/-- **The order of `Stop` matters**: with the last thread ended first, what the event thread sends
then stays in the queue. -/
theorem leftover_of_reverse : ∃ u,
    runFrom (UnitThreads.step Stage.stopOrder.reverse) (new 5)
      (startUp ++ [.frame 7] ++ passOn .inference ++ passOn .response ++
        [.check .event, .dequeue .event, .callStop] ++ endThread .ioWorker ++
        [.send .event, .done .event] ++ [Stage.event, .response, .inference].flatMap endThread) =
      some u ∧
    u.owner = .stopping [] ∧ (∀ stage, u.runner stage = .finished) ∧
      (u.queue .ioWorker).items = [7] :=
  ⟨_, rfl, rfl, fun stage => by rcases stage with _ | _ | _ | _ <;> rfl, rfl⟩

/-- **A unit that is started again works on nothing**: the queues that `Stop` has terminated stay
so. -/
theorem handedOut_eq_of_stopped {as bs : List (UnitAct α)} {u' : UnitThreads α} {rest : List Stage}
    (hrun : runFrom (UnitThreads.step Stage.stopOrder) (new fps) as = some u)
    (howner : u.owner = .joining .ioWorker rest)
    (hrest : runFrom (UnitThreads.step Stage.stopOrder) u bs = some u') (stage : Stage) :
    u'.handedOut stage = u.handedOut stage := by
  have hlife := Lifecycle.run hrun
  rw [howner] at hlife
  obtain ⟨hsuffix, hended, -, hclosing⟩ := hlife
  have hother : ∀ s, s ≠ .ioWorker → u.Closed s := by
    intro s hne
    refine (hended s ?_).2
    have hmem : Stage.ioWorker :: rest ∈ Stage.stopOrder.tails := (List.mem_tails _ _).mpr hsuffix
    simp only [Stage.stopOrder, List.tails, List.mem_cons, List.cons.injEq, List.not_mem_nil,
      or_false, reduceCtorEq, false_and, true_and, false_or] at hmem
    rw [hmem, List.mem_singleton]
    exact hne
  have hall : ∀ s, (u.queue s).terminated = true := by
    intro s
    rcases s with _ | _ | _ | _
    · exact hother .inference nofun _ (by decide)
    · exact hother .inference nofun _ (by decide)
    · exact hother .response nofun _ (by decide)
    · exact hclosing.terminated _ (by decide) List.not_mem_nil
  have hend : (∀ s, (u'.queue s).terminated = true) ∧ u'.handedOut stage = u.handedOut stage := by
    refine runFrom_invariant (I := fun v => (∀ s, (v.queue s).terminated = true) ∧
      v.handedOut stage = u.handedOut stage) ?_ ⟨hall, rfl⟩ hrest
    rintro v b v' ⟨hterm, hout⟩ hs
    exact ⟨fun s => terminated_step hs (hterm s),
      (handedOut_step hs (Or.inr (hterm stage))).trans hout⟩
  exact hend.2

/-- `Start` and `Stop` are called, up to the join of the last thread. -/
def stopToLast : List (UnitAct ℕ) :=
  startUp ++ [.callStop] ++ [Stage.inference, .response, .event].flatMap endThread ++
    List.replicate 4 .owner

/-- The last thread is joined, `Start` is called, and a frame comes. -/
def restart : List (UnitAct ℕ) :=
  [.check .ioWorker] ++ List.replicate 2 .owner ++ startUp ++ [.frame 7] ++
    [.check .inference, .dequeue .inference]

theorem handedOut_eq_of_stopped_restart : ∃ u u',
    runFrom (UnitThreads.step Stage.stopOrder) (new 5) stopToLast = some u ∧
    runFrom (UnitThreads.step Stage.stopOrder) u restart = some u' ∧
    (u'.queue .inference).items = [7] ∧
    u'.handedOut .inference = u.handedOut .inference := by
  have hend : (runFrom (UnitThreads.step Stage.stopOrder) (new 5) stopToLast).map
      (·.owner) = some (.joining .ioWorker []) := rfl
  have hboth : (runFrom (UnitThreads.step Stage.stopOrder) (new 5) (stopToLast ++ restart)).map
      (fun u => (u.queue .inference).items) = some [7] := rfl
  obtain ⟨u', hrun, hitems⟩ := Option.map_eq_some_iff.mp hboth
  obtain ⟨u, hfirst, hrest⟩ := runFrom_append.mp hrun
  have howner : u.owner = .joining .ioWorker [] := by
    rw [hfirst] at hend
    exact Option.some.inj hend
  exact ⟨u, u', hfirst, hrest, hitems, handedOut_eq_of_stopped hfirst howner hrest .inference⟩

end UnitThreads

end DetectBase
