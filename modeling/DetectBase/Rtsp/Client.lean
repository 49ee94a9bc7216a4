import DetectBase.Foundations.Transition
import DetectBase.Structure.Types

/-!
# The client of a camera

`GstRtspClient` keeps a receiver for the stream of a camera, and a worker that recovers the stream
when it fails. Callbacks of the receiver ask for that by a flag, `reconnect_pending_`, and a
watchdog in the worker sets the flag itself when no frame has come for a while. The worker clears
the flag, and then either resets the receiver in place, after the end of the stream, or stops it,
waits, and starts a new one.

What other threads may do in between is why the worker is a position in its loop
(`DetectBase.WorkerPoint`) and one step of it is what it does between two of them
(`DetectBase.RtspClient.workerStep`). The other actors are the thread that starts the first
receiver, the callbacks, of which any number may be under way, the frames, and the clock. The times
that the worker sleeps are not part of the model: it may wake up at any time. The runs are those
before a shutdown.

The client carries an account of what has happened (`DetectBase.RtspAccount`), which nothing reads
but the statements of the modules that follow.
-/

namespace DetectBase

/-- `GstRtspClient::Config`, as far as the recovery depends on it. -/
structure RtspConfig where
  /-- `reconnect_initial_sec`. -/
  reconnectInitialSec : ℤ
  /-- `reconnect_max_sec`. -/
  reconnectMaxSec : ℤ

/-- `WATCHDOG_STALE_SEC`. -/
def watchdogStaleSec : ℕ := 12

/-- `GstRtspReceiver`. -/
structure RtspReceiver where
  /-- `frame_count_`. -/
  frameCount : ℕ
  /-- `last_frame_ns_`. -/
  lastFrameNs : ℕ
  /-- `pipeline_` is not null. -/
  hasPipeline : Bool
  /-- A pipeline that was to be taken down did not stop and has been left alone. -/
  leaked : Bool

namespace RtspReceiver

/-- A receiver before `Start`. -/
def new : RtspReceiver := ⟨0, 0, false, false⟩

/-- **`TeardownPipeline`**, with what becomes of the pipeline: whether it stops in time. -/
def teardown (r : RtspReceiver) (stops : Bool) : RtspReceiver :=
  { r with hasPipeline := false, leaked := r.leaked || !stops }

/-- There may be a frame, from the pipeline of the receiver or from one that has leaked. -/
def delivers (r : RtspReceiver) (current : Bool) : Bool :=
  if current then r.hasPipeline else r.leaked

/-- **`OnNewSample`** with a frame, at the given time. -/
def onNewSample (r : RtspReceiver) (now : ℕ) : RtspReceiver :=
  { r with frameCount := r.frameCount + 1, lastFrameNs := now }

end RtspReceiver

/-- A callback of a receiver that has begun. -/
structure RtspCallback where
  /-- It is `on_eos`, and not `on_error` or `on_timeout`. -/
  eos : Bool
  /-- The number of the pipeline that it was begun for. -/
  pipeline : ℕ
  /-- It has stored its cause, if it has one to store. -/
  marked : Bool
deriving DecidableEq

/-- How far the first `StartReceiver` is, which the thread of the client calls. -/
inductive Opening where
  /-- It has not begun. -/
  | before : Opening
  /-- It holds `receiver_mtx_` and is to build the pipeline. -/
  | building : Opening
  /-- It is to set the pipeline to playing. -/
  | playing : Opening
  /-- It has returned. -/
  | done : Opening
deriving DecidableEq

/-- Where `ReconnectWorker` is. -/
inductive WorkerPoint where
  /-- In `wait_for`. -/
  | waiting : WorkerPoint
  /-- At the first test of the flag. -/
  | awake : WorkerPoint
  /-- Before it reads the time of the last frame. -/
  | reading : WorkerPoint
  /-- Before it compares that time with the clock. -/
  | judging (lastNs : ℕ) : WorkerPoint
  /-- The watchdog has stored the cause and is to set the flag. -/
  | marking : WorkerPoint
  /-- At the second test of the flag. -/
  | retesting : WorkerPoint
  /-- Before it clears the flag. -/
  | woken : WorkerPoint
  /-- Before it takes the cause. -/
  | cleared : WorkerPoint
  /-- In the sleep before a reset in place. -/
  | desync : WorkerPoint
  /-- At the beginning of `ResetSourceOnly`. -/
  | resetting : WorkerPoint
  /-- In `ResetSourceOnly`, before `BuildPipeline`. -/
  | rebuilding : WorkerPoint
  /-- In `ResetSourceOnly`, before the pipeline is set to playing. -/
  | replaying : WorkerPoint
  /-- After a `ResetSourceOnly` that has succeeded. -/
  | resetOk : WorkerPoint
  /-- In the sleep before a restart. -/
  | sleeping (waitSec : ℤ) : WorkerPoint
  /-- Before `StopReceiver`. -/
  | stopping : WorkerPoint
  /-- In the sleep after `StopReceiver`. -/
  | releasing : WorkerPoint
  /-- In `StartReceiver`, before `BuildPipeline`. -/
  | starting : WorkerPoint
  /-- In `StartReceiver`, before the pipeline is set to playing. -/
  | playing : WorkerPoint
  /-- It waits for a frame, for so many rounds at most. -/
  | watching (rounds : ℕ) : WorkerPoint
  /-- It has seen a frame. -/
  | flowing : WorkerPoint
  /-- It has seen no frame. -/
  | notFlowing : WorkerPoint
  /-- After a `StartReceiver` that has failed. -/
  | startFailed : WorkerPoint
  /-- Before it sets the flag for another attempt. -/
  | retrying : WorkerPoint
deriving DecidableEq

/-- **What has happened**, for the statements. -/
structure RtspAccount where
  /-- The requests since a pipeline was built last. -/
  raisedSince : ℕ
  /-- The requests before that which no pipeline has been set to playing after. -/
  raisedBefore : ℕ
  /-- Since a pipeline was built last, it has begun a callback, the watchdog has fired, or the
  attempt to recover has failed. -/
  cause : Bool
  /-- The recoveries that have begun without such a cause. -/
  unprompted : ℕ
  /-- The frames since a pipeline was built last. -/
  frames : ℕ
  /-- How often the backoff has been set back without a frame since a pipeline was built last. -/
  blindResets : ℕ
  /-- When a pipeline was built last. -/
  builtAt : ℕ
  /-- When that pipeline delivered its last frame. -/
  deliveredAt : Option ℕ
  /-- The stream was silent, and the flag clear, when the worker woke up. -/
  silentAtWake : Bool
  /-- The iterations with a silent stream in which no recovery has begun. -/
  missed : ℕ

namespace RtspAccount

/-- Nothing has happened. -/
def new : RtspAccount := ⟨0, 0, false, 0, 0, 0, 0, none, false, 0⟩

/-- A pipeline is built. -/
def build (a : RtspAccount) (now : ℕ) : RtspAccount :=
  { a with
    raisedSince := 0
    raisedBefore := a.raisedBefore + a.raisedSince
    cause := false
    frames := 0
    builtAt := now
    deliveredAt := none }

/-- A recovery begins. -/
def recover (a : RtspAccount) : RtspAccount :=
  { a with unprompted := a.unprompted + if a.cause then 0 else 1 }

/-- The backoff is set back. -/
def resetBackoff (a : RtspAccount) : RtspAccount :=
  { a with blindResets := a.blindResets + if 0 < a.frames then 0 else 1 }

/-- An iteration ends without a recovery. -/
def pass (a : RtspAccount) : RtspAccount :=
  { a with missed := a.missed + if a.silentAtWake then 1 else 0 }

/-- A frame is delivered, by the pipeline that was built last or by one that has leaked. -/
def deliver (a : RtspAccount) (current : Bool) (now : ℕ) : RtspAccount :=
  { a with
    frames := a.frames + 1
    deliveredAt := if current then some now else a.deliveredAt }

end RtspAccount

/-- `GstRtspClient`, with its worker and its callbacks. -/
structure RtspClient where
  /-- `receiver_`, or nothing for a null pointer. -/
  receiver : Option RtspReceiver
  /-- `reconnect_pending_`. -/
  reconnectPending : Bool
  /-- `eos_reconnect_pending_`. -/
  eosReconnectPending : Bool
  /-- `backoff_sec_`. -/
  backoffSec : ℤ
  /-- `reconnect_count_`. -/
  reconnectCount : ℕ
  /-- How far the first `StartReceiver` is. -/
  opening : Opening
  /-- Where the worker is. -/
  point : WorkerPoint
  /-- The callbacks that are under way. -/
  callbacks : List RtspCallback
  /-- `steady_clock::now()`, in nanoseconds. -/
  now : ℕ
  /-- How many pipelines have been built. -/
  built : ℕ
  /-- What has happened. -/
  account : RtspAccount

/-- What a thread does, or the camera, or the clock. -/
inductive RtspAct where
  /-- Time passes. -/
  | tick (ns : ℕ) : RtspAct
  /-- The receiver begins a callback. -/
  | raise (eos : Bool) : RtspAct
  /-- `on_eos` stores its cause. -/
  | markEos (call : ℕ) : RtspAct
  /-- A callback does what `RequestReconnect` does, and returns. -/
  | requestReconnect (call : ℕ) : RtspAct
  /-- A frame comes, from the pipeline of the receiver or from one that has leaked. -/
  | frame (current : Bool) : RtspAct
  /-- The first `StartReceiver` goes on. -/
  | openReceiver : RtspAct
  /-- The worker goes on. A call that it makes succeeds or not, and a pipeline that it takes down
  stops or not. -/
  | worker (succeeds stops : Bool) : RtspAct

namespace RtspClient

/-- The client when its threads start. -/
def start (cfg : RtspConfig) (now : ℕ) : RtspClient where
  receiver := none
  reconnectPending := false
  eosReconnectPending := false
  backoffSec := cfg.reconnectInitialSec
  reconnectCount := 0
  opening := .before
  point := .waiting
  callbacks := []
  now := now
  built := 0
  account := .new

/-- Nobody but the worker holds `receiver_mtx_`. -/
def mutexFree (s : RtspClient) : Bool := s.opening = .before ∨ s.opening = .done

/-- The worker goes on to a point. -/
def goTo (s : RtspClient) (p : WorkerPoint) : RtspClient := { s with point := p }

/-- **The stream is silent**: the pipeline of the receiver was built `WATCHDOG_STALE_SEC` ago at
least, and has delivered no frame since. -/
def Silent (s : RtspClient) : Prop :=
  s.receiver.any RtspReceiver.hasPipeline ∧
    s.account.builtAt + watchdogStaleSec * 10 ^ 9 ≤ s.now ∧
    ∀ t ∈ s.account.deliveredAt, t + watchdogStaleSec * 10 ^ 9 ≤ s.now

instance (s : RtspClient) : Decidable s.Silent := inferInstanceAs (Decidable (_ ∧ _))

/-- The worker wakes up. -/
def wake (s : RtspClient) : RtspClient :=
  { s with
    point := .awake
    account := { s.account with silentAtWake := !s.reconnectPending && s.Silent } }

/-- The watchdog fires. -/
def fire (s : RtspClient) : RtspClient :=
  { s with
    point := .marking
    eosReconnectPending := true
    account := { s.account with cause := true } }

/-- The flag is set, and the worker goes on to a point. -/
def setPending (s : RtspClient) (p : WorkerPoint) : RtspClient :=
  { s with point := p, reconnectPending := true }

/-- The worker goes back to its wait. -/
def giveUp (s : RtspClient) : RtspClient := { s with point := .waiting, account := s.account.pass }

/-- The worker clears the flag. -/
def clear (s : RtspClient) : RtspClient :=
  { s with point := .cleared, reconnectPending := false, account := s.account.recover }

/-- The worker takes the cause: it is to reset the receiver, or to start another one. -/
def takeCause (s : RtspClient) : RtspClient :=
  { s with
    point := if s.eosReconnectPending then .desync else .sleeping s.backoffSec
    eosReconnectPending := false }

theorem point_takeCause (s : RtspClient) :
    s.takeCause.point = .desync ∨ s.takeCause.point = .sleeping s.backoffSec := by
  rw [takeCause]
  dsimp only
  split_ifs
  · exact .inl rfl
  · exact .inr rfl

/-- The pipeline is taken down. -/
def teardown (s : RtspClient) (stops : Bool) (p : WorkerPoint) : RtspClient :=
  { s with point := p, receiver := s.receiver.map (·.teardown stops) }

/-- **`BuildPipeline`** succeeds. -/
def buildPipeline (s : RtspClient) : RtspClient :=
  { s with
    receiver := s.receiver.map fun r => { r with hasPipeline := true }
    built := s.built + 1
    account := s.account.build s.now }

/-- The pipeline is set to playing. -/
def play (s : RtspClient) : RtspClient := { s with account := { s.account with raisedBefore := 0 } }

/-- There is another receiver, or none. -/
def setReceiver (s : RtspClient) (r : Option RtspReceiver) (p : WorkerPoint) : RtspClient :=
  { s with point := p, receiver := r }

/-- The recovery has succeeded, as the worker sees it. -/
def succeed (s : RtspClient) (cfg : RtspConfig) : RtspClient :=
  { s with
    point := .waiting
    backoffSec := cfg.reconnectInitialSec
    reconnectCount := s.reconnectCount + 1
    account := s.account.resetBackoff }

/-- The recovery has failed, as the worker sees it. -/
def fail (s : RtspClient) (cfg : RtspConfig) : RtspClient :=
  { s with
    point := .retrying
    backoffSec := min (toInt32 (s.backoffSec * 2)) cfg.reconnectMaxSec
    account := { s.account with cause := true } }

/-- The watchdog finds the last frame too old. -/
def IsStale (s : RtspClient) (lastNs : ℕ) : Prop :=
  0 < lastNs ∧ watchdogStaleSec ≤ (s.now - lastNs) / 10 ^ 9

instance (s : RtspClient) (lastNs : ℕ) : Decidable (s.IsStale lastNs) :=
  inferInstanceAs (Decidable (_ ∧ _))

/-- **`ReconnectWorker`**, from one point to the next. -/
def workerStep (cfg : RtspConfig) (s : RtspClient) (succeeds stops : Bool) : Option RtspClient :=
  match s.point with
  | .waiting => some s.wake
  | .awake => some (s.goTo (if s.reconnectPending then .woken else .reading))
  | .reading =>
    if s.mutexFree then
      some (s.goTo (.judging ((s.receiver.map RtspReceiver.lastFrameNs).getD 0)))
    else none
  | .judging lastNs => some (if s.IsStale lastNs then s.fire else s.goTo .retesting)
  | .marking => some (s.setPending .retesting)
  | .retesting => some (if s.reconnectPending then s.goTo .woken else s.giveUp)
  | .woken => some s.clear
  | .cleared => some s.takeCause
  | .desync => if s.mutexFree then some (s.goTo .resetting) else none
  | .resetting =>
    -- no receiver, or a receiver without a pipeline, is not reset
    if s.receiver.any RtspReceiver.hasPipeline then some (s.teardown stops .rebuilding)
    else some (s.goTo (.sleeping 0))
  | .rebuilding => some (if succeeds then s.buildPipeline.goTo .replaying else s.goTo (.sleeping 0))
  | .replaying => some (if succeeds then s.play.goTo .resetOk else s.teardown stops (.sleeping 0))
  | .resetOk => some (s.succeed cfg)
  | .sleeping _ => some (s.goTo .stopping)
  | .stopping => if s.mutexFree then some (s.setReceiver none .releasing) else none
  | .releasing => if s.mutexFree then some (s.setReceiver (some .new) .starting) else none
  | .starting =>
    some (if succeeds then s.buildPipeline.goTo .playing else s.setReceiver none .startFailed)
  | .playing =>
    some (if succeeds then s.play.goTo (.watching 60) else s.setReceiver none .startFailed)
  | .watching 0 => some (s.goTo .notFlowing)
  | .watching (rounds + 1) =>
    some (s.goTo (if 0 < (s.receiver.map RtspReceiver.frameCount).getD 0 then .flowing
      else .watching rounds))
  | .flowing => some (s.succeed cfg)
  | .notFlowing => some (s.fail cfg)
  | .startFailed => some (s.fail cfg)
  | .retrying => some (s.setPending .waiting)

/-- The worker is in a section in which it holds `receiver_mtx_`. -/
def workerLocks (s : RtspClient) : Bool :=
  s.point = .resetting ∨ s.point = .rebuilding ∨ s.point = .replaying ∨ s.point = .starting ∨
    s.point = .playing

/-- The first **`StartReceiver`**, from one point to the next. When it fails, the client shuts down,
and the run ends. -/
def openStep (s : RtspClient) : Option RtspClient :=
  match s.opening with
  | .before =>
    if s.workerLocks then none
    else some { s with opening := .building, receiver := some .new }
  | .building => some { s.buildPipeline with opening := .playing }
  | .playing => some { s.play with opening := .done }
  | .done => none

/-- A callback begins. -/
def raise (s : RtspClient) (eos : Bool) : RtspClient :=
  { s with
    callbacks := s.callbacks ++ [⟨eos, s.built, !eos⟩]
    account := { s.account with cause := true } }

/-- A callback stores its cause. -/
def markEos (s : RtspClient) (call : ℕ) (c : RtspCallback) : RtspClient :=
  { s with
    eosReconnectPending := true
    callbacks := s.callbacks.set call { c with marked := true } }

/-- **`RequestReconnect`**: whether the flag was set before or not, it is now. -/
def requestReconnect (s : RtspClient) (call : ℕ) : RtspClient :=
  { s with
    reconnectPending := true
    callbacks := s.callbacks.eraseIdx call
    account := { s.account with raisedSince := s.account.raisedSince + 1 } }

/-- A frame comes to the receiver. -/
def receive (s : RtspClient) (r : RtspReceiver) (current : Bool) : RtspClient :=
  { s with
    receiver := some (r.onNewSample s.now)
    account := s.account.deliver current s.now }

/-- **One step of a run.** -/
def step (cfg : RtspConfig) (s : RtspClient) : RtspAct → Option RtspClient
  | .tick ns => some { s with now := s.now + ns }
  | .raise eos => if 0 < s.built then some (s.raise eos) else none
  | .markEos call =>
    match s.callbacks[call]? with
    | some c => if c.marked then none else some (s.markEos call c)
    | none => none
  | .requestReconnect call =>
    match s.callbacks[call]? with
    | some c => if c.marked then some (s.requestReconnect call) else none
    | none => none
  | .frame current =>
    match s.receiver with
    | some r => if r.delivers current then some (s.receive r current) else none
    | none => none
  | .openReceiver => s.openStep
  | .worker succeeds stops => s.workerStep cfg succeeds stops

/-! ### What a step of the worker can do -/

/-- The worker goes from one point to another, and does nothing else. -/
inductive Passes (s : RtspClient) : WorkerPoint → WorkerPoint → Prop where
  /-- The flag is set when the worker wakes up. -/
  | found (h : s.reconnectPending = true) : Passes s .awake .woken
  /-- The flag is clear when the worker wakes up. -/
  | quiet (h : s.reconnectPending = false) : Passes s .awake .reading
  /-- The time of the last frame is read. -/
  | read (h : s.mutexFree = true) :
    Passes s .reading (.judging ((s.receiver.map RtspReceiver.lastFrameNs).getD 0))
  /-- The last frame is not too old, or there is none. -/
  | fresh {lastNs : ℕ} (h : ¬ s.IsStale lastNs) : Passes s (.judging lastNs) .retesting
  /-- The flag is set by now. -/
  | again (h : s.reconnectPending = true) : Passes s .retesting .woken
  /-- `receiver_mtx_` is taken for a reset. -/
  | lock (h : s.mutexFree = true) : Passes s .desync .resetting
  /-- There is nothing to reset. -/
  | noPipeline (h : s.receiver.any RtspReceiver.hasPipeline = false) :
    Passes s .resetting (.sleeping 0)
  /-- No pipeline is built in place of the old one. -/
  | rebuildFailed : Passes s .rebuilding (.sleeping 0)
  /-- The sleep before a restart is over. -/
  | slept {waitSec : ℤ} : Passes s (.sleeping waitSec) .stopping
  /-- The new receiver has delivered a frame. -/
  | seen {rounds : ℕ} (h : 0 < (s.receiver.map RtspReceiver.frameCount).getD 0) :
    Passes s (.watching (rounds + 1)) .flowing
  /-- It has not delivered a frame yet. -/
  | unseen {rounds : ℕ} : Passes s (.watching (rounds + 1)) (.watching rounds)
  /-- It has not delivered a frame in time. -/
  | timedOut : Passes s (.watching 0) .notFlowing

/-- What a step of the worker can do, by what it changes. -/
inductive WorkerStep (cfg : RtspConfig) (s : RtspClient) (succeeds : Bool) : RtspClient → Prop where
  /-- It goes from one point to another. -/
  | pass {p q : WorkerPoint} (hp : s.point = p) (h : Passes s p q) :
    WorkerStep cfg s succeeds (s.goTo q)
  /-- It wakes up. -/
  | wake (h : s.point = .waiting) : WorkerStep cfg s succeeds s.wake
  /-- The watchdog stores the cause. -/
  | fire {lastNs : ℕ} (h : s.point = .judging lastNs) (hstale : s.IsStale lastNs) :
    WorkerStep cfg s succeeds s.fire
  /-- The watchdog sets the flag. -/
  | mark (h : s.point = .marking) : WorkerStep cfg s succeeds (s.setPending .retesting)
  /-- The iteration ends without a recovery. -/
  | giveUp (h : s.point = .retesting) (hpending : s.reconnectPending = false) :
    WorkerStep cfg s succeeds s.giveUp
  /-- A recovery begins. -/
  | clear (h : s.point = .woken) : WorkerStep cfg s succeeds s.clear
  /-- It takes the cause. -/
  | takeCause (h : s.point = .cleared) : WorkerStep cfg s succeeds s.takeCause
  /-- The pipeline is taken down for a reset. -/
  | teardown (h : s.point = .resetting) (stops : Bool) :
    WorkerStep cfg s succeeds (s.teardown stops .rebuilding)
  /-- A pipeline is built in place of the old one. -/
  | rebuild (h : s.point = .rebuilding) (hsucceeds : succeeds = true) :
    WorkerStep cfg s succeeds (s.buildPipeline.goTo .replaying)
  /-- The pipeline does not play and is taken down. -/
  | replayFailed (h : s.point = .replaying) (stops : Bool) :
    WorkerStep cfg s succeeds (s.teardown stops (.sleeping 0))
  /-- The reset has succeeded. -/
  | replay (h : s.point = .replaying) : WorkerStep cfg s succeeds (s.play.goTo .resetOk)
  /-- The receiver is stopped. -/
  | stop (h : s.point = .stopping) (hfree : s.mutexFree = true) :
    WorkerStep cfg s succeeds (s.setReceiver none .releasing)
  /-- There is a new receiver. -/
  | renew (h : s.point = .releasing) (hfree : s.mutexFree = true) :
    WorkerStep cfg s succeeds (s.setReceiver (some .new) .starting)
  /-- The new receiver does not start. -/
  | startFailed (h : s.point = .starting ∨ s.point = .playing) :
    WorkerStep cfg s succeeds (s.setReceiver none .startFailed)
  /-- The pipeline of the new receiver is built. -/
  | build (h : s.point = .starting) (hsucceeds : succeeds = true) :
    WorkerStep cfg s succeeds (s.buildPipeline.goTo .playing)
  /-- The new receiver has started. -/
  | play (h : s.point = .playing) : WorkerStep cfg s succeeds (s.play.goTo (.watching 60))
  /-- The backoff is set back. -/
  | succeed (h : s.point = .resetOk ∨ s.point = .flowing) :
    WorkerStep cfg s succeeds (s.succeed cfg)
  /-- The backoff grows. -/
  | fail (h : s.point = .notFlowing ∨ s.point = .startFailed) :
    WorkerStep cfg s succeeds (s.fail cfg)
  /-- The flag is set for another attempt. -/
  | retry (h : s.point = .retrying) : WorkerStep cfg s succeeds (s.setPending .waiting)

variable {cfg : RtspConfig} {s s' : RtspClient}

/-- **What a step of the worker can do.** -/
theorem workerStep_cases {succeeds stops : Bool} (h : s.workerStep cfg succeeds stops = some s') :
    WorkerStep cfg s succeeds s' := by
  rw [workerStep] at h
  split at h
  case h_1 hp =>
    cases h
    exact .wake hp
  case h_2 hp =>
    cases h
    split_ifs with hpending
    · exact .pass hp (.found hpending)
    · exact .pass hp (.quiet (Bool.eq_false_iff.mpr hpending))
  case h_3 hp =>
    split_ifs at h with hfree
    cases h
    exact .pass hp (.read hfree)
  case h_4 lastNs hp =>
    cases h
    split_ifs with hstale
    · exact .fire hp hstale
    · exact .pass hp (.fresh hstale)
  case h_5 hp =>
    cases h
    exact .mark hp
  case h_6 hp =>
    cases h
    split_ifs with hpending
    · exact .pass hp (.again hpending)
    · exact .giveUp hp (Bool.eq_false_iff.mpr hpending)
  case h_7 hp =>
    cases h
    exact .clear hp
  case h_8 hp =>
    cases h
    exact .takeCause hp
  case h_9 hp =>
    split_ifs at h with hfree
    cases h
    exact .pass hp (.lock hfree)
  case h_10 hp =>
    split_ifs at h with hpipeline
    · cases h
      exact .teardown hp stops
    · cases h
      exact .pass hp (.noPipeline (Bool.eq_false_iff.mpr hpipeline))
  case h_11 hp =>
    cases h
    split_ifs with hsucceeds
    · exact .rebuild hp hsucceeds
    · exact .pass hp .rebuildFailed
  case h_12 hp =>
    cases h
    split_ifs
    · exact .replay hp
    · exact .replayFailed hp stops
  case h_13 hp =>
    cases h
    exact .succeed (.inl hp)
  case h_14 waitSec hp =>
    cases h
    exact .pass hp .slept
  case h_15 hp =>
    split_ifs at h with hfree
    cases h
    exact .stop hp hfree
  case h_16 hp =>
    split_ifs at h with hfree
    cases h
    exact .renew hp hfree
  case h_17 hp =>
    cases h
    split_ifs with hsucceeds
    · exact .build hp hsucceeds
    · exact .startFailed (.inl hp)
  case h_18 hp =>
    cases h
    split_ifs
    · exact .play hp
    · exact .startFailed (.inr hp)
  case h_19 hp =>
    cases h
    exact .pass hp .timedOut
  case h_20 rounds hp =>
    cases h
    split_ifs with hframes
    · exact .pass hp (.seen hframes)
    · exact .pass hp .unseen
  case h_21 hp =>
    cases h
    exact .succeed (.inr hp)
  case h_22 hp =>
    cases h
    exact .fail (.inl hp)
  case h_23 hp =>
    cases h
    exact .fail (.inr hp)
  case h_24 hp =>
    cases h
    exact .retry hp

/-- What a step can do, by what it changes. -/
inductive ClientStep (cfg : RtspConfig) (s : RtspClient) : RtspAct → RtspClient → Prop where
  /-- Time passes. -/
  | tick (ns : ℕ) : ClientStep cfg s (.tick ns) { s with now := s.now + ns }
  /-- A callback begins. -/
  | raise (eos : Bool) (h : 0 < s.built) : ClientStep cfg s (.raise eos) (s.raise eos)
  /-- A callback stores its cause. -/
  | markEos {call : ℕ} {c : RtspCallback} (h : s.callbacks[call]? = some c) :
    ClientStep cfg s (.markEos call) (s.markEos call c)
  /-- A callback sets the flag, and returns. -/
  | requestReconnect {call : ℕ} {c : RtspCallback} (h : s.callbacks[call]? = some c) :
    ClientStep cfg s (.requestReconnect call) (s.requestReconnect call)
  /-- A frame comes. -/
  | frame {r : RtspReceiver} (current : Bool) (h : s.receiver = some r)
    (hfrom : r.delivers current = true) :
    ClientStep cfg s (.frame current) (s.receive r current)
  /-- The first `StartReceiver` begins. -/
  | openBegin (h : s.opening = .before) (hfree : s.workerLocks = false) :
    ClientStep cfg s .openReceiver { s with opening := .building, receiver := some .new }
  /-- The first pipeline is built. -/
  | openBuild (h : s.opening = .building) :
    ClientStep cfg s .openReceiver { s.buildPipeline with opening := .playing }
  /-- The first `StartReceiver` ends. -/
  | openEnd (h : s.opening = .playing) :
    ClientStep cfg s .openReceiver { s.play with opening := .done }
  /-- The worker goes on. -/
  | worker {succeeds stops : Bool} {s' : RtspClient} (h : WorkerStep cfg s succeeds s') :
    ClientStep cfg s (.worker succeeds stops) s'

/-- **What a step can do.** -/
theorem step_cases {a : RtspAct} (h : s.step cfg a = some s') :
    ClientStep cfg s a s' := by
  cases a with
  | tick ns =>
    cases h
    exact .tick ns
  | raise eos =>
    rw [step] at h
    split_ifs at h with hbuilt
    cases h
    exact .raise eos hbuilt
  | markEos call =>
    rw [step] at h
    split at h
    · next c hc =>
      split_ifs at h
      cases h
      exact .markEos hc
    · cases h
  | requestReconnect call =>
    rw [step] at h
    split at h
    · next c hc =>
      split_ifs at h
      cases h
      exact .requestReconnect hc
    · cases h
  | frame current =>
    rw [step] at h
    split at h
    · next r hr =>
      split_ifs at h with hfrom
      cases h
      exact .frame current hr hfrom
    · cases h
  | openReceiver =>
    rw [step, openStep] at h
    split at h
    · next hopening =>
      split_ifs at h with hlocks
      cases h
      exact .openBegin hopening (Bool.eq_false_iff.mpr hlocks)
    · next hopening =>
      cases h
      exact .openBuild hopening
    · next hopening =>
      cases h
      exact .openEnd hopening
    · cases h
  | worker succeeds stops => exact .worker (workerStep_cases h)

/-! ### Before the first pipeline -/

/-- The worker is in its loop around the wait, and has not read the time of a frame. -/
def rests : WorkerPoint → Bool
  | .waiting | .awake | .reading | .judging 0 | .retesting => true
  | _ => false

/-- **Nothing has happened yet.** -/
structure Untouched (s : RtspClient) : Prop where
  /-- No pipeline has been built. -/
  built : s.built = 0
  /-- There is no callback. -/
  callbacks : s.callbacks = []
  /-- The flag is clear. -/
  clear : s.reconnectPending = false
  /-- The worker does nothing. -/
  idle : rests s.point = true
  /-- A receiver is as new. -/
  receiver : ∀ r ∈ s.receiver, r = .new
  /-- There is none before the first `StartReceiver`. -/
  unopened : s.opening = .before → s.receiver = none

/-- As long as no pipeline has been built, nothing has happened. -/
def Opens (s : RtspClient) : Prop :=
  s.opening = .before ∨ s.opening = .building → s.Untouched

theorem opens_start (now : ℕ) : (start cfg now).Opens :=
  fun _ => ⟨rfl, rfl, rfl, rfl, by simp [start], fun _ => rfl⟩

/-- The worker does nothing as long as nothing has happened. -/
theorem untouched_workerStep {succeeds : Bool} (h : s.Untouched)
    (hstep : WorkerStep cfg s succeeds s') : s'.Untouched := by
  have hidle := h.idle
  have hnew : (s.receiver.map RtspReceiver.lastFrameNs).getD 0 = 0 := by
    cases hr : s.receiver with
    | none => rfl
    | some r => rw [h.receiver r hr]; rfl
  cases hstep with
  | pass hp hpass =>
    rw [hp] at hidle
    cases hpass with
    | found hpending => exact absurd hpending (by rw [h.clear]; exact Bool.false_ne_true)
    | again hpending => exact absurd hpending (by rw [h.clear]; exact Bool.false_ne_true)
    | quiet => exact ⟨h.built, h.callbacks, h.clear, rfl, h.receiver, h.unopened⟩
    | read =>
      rw [hnew]
      exact ⟨h.built, h.callbacks, h.clear, rfl, h.receiver, h.unopened⟩
    | fresh => exact ⟨h.built, h.callbacks, h.clear, rfl, h.receiver, h.unopened⟩
    | lock | noPipeline | rebuildFailed | slept | seen | unseen | timedOut => cases hidle
  | wake hp => exact ⟨h.built, h.callbacks, h.clear, rfl, h.receiver, h.unopened⟩
  | @fire lastNs hp hstale =>
    rw [hp] at hidle
    cases lastNs with
    | zero => exact absurd hstale.1 (lt_irrefl 0)
    | succ => cases hidle
  | giveUp hp => exact ⟨h.built, h.callbacks, h.clear, rfl, h.receiver, h.unopened⟩
  | mark hp | clear hp | takeCause hp | teardown hp | rebuild hp | replayFailed hp | replay hp
  | stop hp | renew hp | build hp | play hp | retry hp =>
    rw [hp] at hidle
    cases hidle
  | startFailed hp | succeed hp | fail hp =>
    obtain hp | hp := hp
    · rw [hp] at hidle
      cases hidle
    · rw [hp] at hidle
      cases hidle

/-- The worker has no part in the first `StartReceiver`. -/
theorem opening_of_workerStep {succeeds : Bool} (h : WorkerStep cfg s succeeds s') :
    s'.opening = s.opening := by
  cases h <;> rfl

theorem opens_step {a : RtspAct} (h : s.Opens) (hstep : ClientStep cfg s a s') : s'.Opens := by
  intro hopening
  cases hstep with
  | tick ns =>
    have h := h hopening
    exact ⟨h.built, h.callbacks, h.clear, h.idle, h.receiver, h.unopened⟩
  | raise eos hbuilt => exact absurd (h hopening).built (Nat.ne_of_gt hbuilt)
  | markEos hc =>
    have h := h hopening
    rw [h.callbacks] at hc
    cases hc
  | requestReconnect hc =>
    have h := h hopening
    rw [h.callbacks] at hc
    cases hc
  | frame current hr hfrom =>
    have h := h hopening
    rw [h.receiver _ hr] at hfrom
    cases current <;> cases hfrom
  | openBegin hbefore hfree =>
    have h := h (.inl hbefore)
    exact ⟨h.built, h.callbacks, h.clear, h.idle, by simp, nofun⟩
  | openBuild => cases hopening <;> contradiction
  | openEnd => cases hopening <;> contradiction
  | worker hworker =>
    rw [opening_of_workerStep hworker] at hopening
    exact untouched_workerStep (h hopening) hworker

end RtspClient

end DetectBase
