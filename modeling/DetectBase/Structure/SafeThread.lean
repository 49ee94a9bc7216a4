import DetectBase.Foundations.Transition
import Mathlib.Logic.Function.Basic

/-!
# A thread with a flag

`SafeThread.h`: one atomic flag says whether the thread is to run, whether `Start` has to make one,
and whether `Stop` has one to join. The owner calls `Start`, `Stop` and the destructor, each made of
the steps between which the runner may go on; the runner has the flag from `GetRunningFlag`, and may
store `false` into it. The runner of the engine handler does so when its device cannot be
initialised.

As long as only the owner clears the flag, it is set exactly when there is a thread to join, and no
`std::thread` is assigned to or destructed while it is joinable
(`DetectBase.SafeThread.inv_step`). A runner that clears the flag before `Stop` does takes the
thread out of the owner's reach: whatever the owner does next, its last step is to be terminated
(`DetectBase.SafeThread.Doomed`), so that the condition is exact for every run that comes to its
end (`DetectBase.SafeThread.safe_iff_ownerClears`).

Threads are numbered in the order in which they are made.
-/

namespace DetectBase

/-! ### The model -/

/-- Where the owner stands. -/
inductive ThreadOwner where
  /-- Before the first call, or after a call of `Start`. -/
  | ready : ThreadOwner
  /-- In `Start`, which has set the flag and is to make a thread. -/
  | starting : ThreadOwner
  /-- In `Start`, with the new thread, which is to be assigned to `thread_object_`. -/
  | spawned (thread : ℕ) : ThreadOwner
  /-- In `Stop`, which has cleared the flag and is to call `thread_closer_`; `last` says that the
  call is that of the destructor. -/
  | closing (last : Bool) : ThreadOwner
  /-- In `Stop`, which is to join the thread, if it is joinable. -/
  | joining (last : Bool) : ThreadOwner
  /-- After a call of `Stop`. -/
  | stopped : ThreadOwner
  /-- In the destructor, after its call of `Stop`: the members are next. -/
  | destructing : ThreadOwner
  /-- After the destructor. -/
  | destroyed : ThreadOwner
  /-- `std::terminate` has been called. -/
  | terminated : ThreadOwner
  deriving DecidableEq

namespace ThreadOwner

/-- No call is in progress, and the object is there. -/
def isFree : ThreadOwner → Bool
  | ready | stopped => true
  | _ => false

/-- Where the owner stands when `Stop` returns. -/
def afterStop (last : Bool) : ThreadOwner := if last then destructing else stopped

/-- The object is not there any more. -/
def isOver : ThreadOwner → Bool
  | destroyed | terminated => true
  | _ => false

end ThreadOwner

/-- A step of the owner or of a runner. -/
inductive ThreadAct where
  /-- `Start` sets the flag. -/
  | start : ThreadAct
  /-- `Start` makes a `std::thread`, and its runner begins. -/
  | spawn : ThreadAct
  /-- `Start` assigns the new thread to `thread_object_`. -/
  | assign : ThreadAct
  /-- `Stop` clears the flag. -/
  | stop : ThreadAct
  /-- `Stop` calls `thread_closer_`. -/
  | close : ThreadAct
  /-- `Stop` joins the thread, if it is joinable. -/
  | join : ThreadAct
  /-- The destructor is called, and its `Stop` clears the flag. -/
  | destroy : ThreadAct
  /-- The members are destructed. -/
  | destruct : ThreadAct
  /-- A runner stores `false` into the flag. -/
  | storeFalse (thread : ℕ) : ThreadAct
  /-- A runner returns. -/
  | finish (thread : ℕ) : ThreadAct

/-- `SafeThread`, with its owner and its runners. -/
structure SafeThread where
  /-- `is_running_`. -/
  isRunning : Bool
  /-- The thread that `thread_object_` stands for, if it is joinable. -/
  threadObject : Option ℕ
  /-- The runners that have not returned. -/
  alive : ℕ → Bool
  /-- How many threads have been made. -/
  threads : ℕ
  /-- Where the owner stands. -/
  owner : ThreadOwner

namespace SafeThread

/-- The constructor. -/
def new : SafeThread := ⟨false, none, fun _ => false, 0, .ready⟩

/-- `joinable` of `thread_object_`. -/
def joinable (s : SafeThread) : Bool := s.threadObject.isSome

/-- The first step of `Stop`: `is_running_.exchange( false )`. -/
def exchangeFalse (s : SafeThread) (last : Bool) : SafeThread :=
  { s with isRunning := false, owner := if s.isRunning then .closing last else .afterStop last }

/-- **A step of the owner or of a runner.** -/
def step (s : SafeThread) : ThreadAct → Option SafeThread
  | .start =>
    if s.owner.isFree then
      some { s with isRunning := true, owner := if s.isRunning then .ready else .starting }
    else none
  | .spawn =>
    match s.owner with
    | .starting =>
      some { s with
        alive := Function.update s.alive s.threads true
        threads := s.threads + 1
        owner := .spawned s.threads }
    | _ => none
  | .assign =>
    match s.owner with
    | .spawned thread =>
      -- an assignment to a joinable thread terminates the process
      if s.joinable then some { s with owner := .terminated }
      else some { s with threadObject := some thread, owner := .ready }
    | _ => none
  | .stop => if s.owner.isFree then some (s.exchangeFalse false) else none
  | .close =>
    match s.owner with
    | .closing last => some { s with owner := .joining last }
    | _ => none
  | .join =>
    match s.owner with
    | .joining last =>
      match s.threadObject with
      | some thread =>
        if s.alive thread then none
        else some { s with threadObject := none, owner := .afterStop last }
      | none => some { s with owner := .afterStop last }
    | _ => none
  | .destroy => if s.owner.isFree then some (s.exchangeFalse true) else none
  | .destruct =>
    match s.owner with
    | .destructing => some { s with owner := if s.joinable then .terminated else .destroyed }
    | _ => none
  | .storeFalse thread =>
    if s.alive thread ∧ s.owner ≠ .terminated then some { s with isRunning := false } else none
  | .finish thread =>
    if s.alive thread ∧ s.owner ≠ .terminated then
      some { s with alive := Function.update s.alive thread false }
    else none

/-! ### The property -/

/-- **No joinable thread is left, assigned to or destructed.** -/
structure Safe (s : SafeThread) : Prop where
  /-- The process has not been terminated. -/
  goesOn : s.owner ≠ .terminated
  /-- `Start` assigns to a thread that is not joinable. -/
  assign : ∀ thread, s.owner = .spawned thread → s.joinable = false
  /-- After `Stop`, the thread is not joinable. -/
  stopped : s.owner = .stopped → s.joinable = false
  /-- Neither is it when the members are destructed. -/
  destructing : s.owner = .destructing → s.joinable = false

/-- **Only the owner clears the flag**: a runner that stores `false` into it finds it cleared. -/
def OwnerClears (s : SafeThread) : ThreadAct → Prop
  | .storeFalse _ => s.isRunning = false
  | _ => True

instance (s : SafeThread) : (a : ThreadAct) → Decidable (s.OwnerClears a)
  | .storeFalse _ => inferInstanceAs (Decidable (s.isRunning = false))
  | .start | .spawn | .assign | .stop | .close | .join | .destroy | .destruct | .finish _ =>
    isTrue trivial

/-! ### As long as only the owner clears the flag -/

/-- What the flag says, by where the owner stands. -/
def FlagSays (s : SafeThread) : ThreadOwner → Prop
  | .ready => s.joinable = s.isRunning
  | .starting | .spawned _ => s.isRunning = true ∧ s.joinable = false
  | .closing _ | .joining _ => s.isRunning = false
  | .stopped | .destructing | .destroyed => s.isRunning = false ∧ s.joinable = false
  | .terminated => False

/-- **What holds between the steps**, when only the owner clears the flag. -/
structure Inv (s : SafeThread) : Prop where
  /-- The flag is set when there is a thread to join, or there is going to be one. -/
  flag : s.FlagSays s.owner
  /-- A runner that has not returned is that of the thread which is joinable or will be. -/
  alive : ∀ thread, s.alive thread = true →
    s.threadObject = some thread ∨ s.owner = .spawned thread

theorem inv_new : new.Inv := ⟨rfl, by simp [new]⟩

theorem Inv.safe {s : SafeThread} (h : s.Inv) : s.Safe := by
  obtain ⟨hflag, -⟩ := h
  constructor
  · intro howner
    rwa [howner] at hflag
  · intro thread howner
    rw [howner] at hflag
    exact hflag.2
  · intro howner
    rw [howner] at hflag
    exact hflag.2
  · intro howner
    rw [howner] at hflag
    exact hflag.2

variable {s s' : SafeThread}

/-- A free owner of a thread finds in the flag whether it has one. -/
theorem Inv.flag_of_isFree (h : s.Inv) (hfree : s.owner.isFree = true) :
    s.joinable = s.isRunning := by
  have hflag := h.flag
  cases howner : s.owner with
  | ready =>
    rw [howner] at hflag
    exact hflag
  | stopped =>
    rw [howner] at hflag
    exact hflag.2.trans hflag.1.symm
  | _ =>
    rw [howner] at hfree
    cases hfree

/-- A runner of a free owner is that of the joinable thread. -/
theorem Inv.alive_of_ne (h : s.Inv) (howner : ∀ thread, s.owner ≠ .spawned thread) {thread : ℕ}
    (ht : s.alive thread = true) : s.threadObject = some thread :=
  (h.alive thread ht).resolve_right (howner thread)

theorem not_spawned_of_isFree (hfree : s.owner.isFree = true) :
    ∀ thread, s.owner ≠ .spawned thread := by
  intro thread howner
  rw [howner] at hfree
  cases hfree

/-- `Stop` clears the flag. -/
theorem Inv.exchangeFalse (h : s.Inv) (hfree : s.owner.isFree = true) (last : Bool) :
    (s.exchangeFalse last).Inv := by
  have hflag := h.flag_of_isFree hfree
  refine ⟨?_, fun thread ht => .inl (h.alive_of_ne (not_spawned_of_isFree hfree) ht)⟩
  rw [SafeThread.exchangeFalse]
  cases hrun : s.isRunning with
  | true => exact rfl
  | false =>
    rw [hrun] at hflag
    cases last with
    | true => exact ⟨rfl, hflag⟩
    | false => exact ⟨rfl, hflag⟩

/-- **Every step keeps the invariant**, when only the owner clears the flag. -/
theorem inv_step {a : ThreadAct} (h : s.Inv) (hok : s.OwnerClears a) (hs : s.step a = some s') :
    s'.Inv := by
  have hflag := h.flag
  cases a with
  | start =>
    rw [step] at hs
    split at hs
    · next hfree =>
      have hjoin := h.flag_of_isFree hfree
      cases hs
      refine ⟨?_, fun thread ht => .inl (h.alive_of_ne (not_spawned_of_isFree hfree) ht)⟩
      cases hrun : s.isRunning with
      | true =>
        rw [hrun] at hjoin
        exact hjoin
      | false =>
        rw [hrun] at hjoin
        exact ⟨rfl, hjoin⟩
    · cases hs
  | spawn =>
    rw [step] at hs
    split at hs
    · next howner =>
      rw [howner] at hflag
      cases hs
      refine ⟨hflag, fun thread ht => ?_⟩
      dsimp only at ht
      rw [Function.update_apply] at ht
      split_ifs at ht with hthread
      · exact .inr (by rw [hthread])
      · exact .inl (h.alive_of_ne (by simp [howner]) ht)
    · cases hs
  | assign =>
    rw [step] at hs
    split at hs
    · next thread howner =>
      rw [howner] at hflag
      obtain ⟨hrun, hjoin⟩ := hflag
      rw [if_neg (by simp [hjoin])] at hs
      cases hs
      refine ⟨hrun.symm, fun thread' ht => .inl ?_⟩
      obtain hobject | hspawned := h.alive thread' ht
      · rw [joinable, hobject] at hjoin
        cases hjoin
      · rw [howner] at hspawned
        cases hspawned
        rfl
    · cases hs
  | stop =>
    rw [step] at hs
    split_ifs at hs with hfree
    cases hs
    exact h.exchangeFalse hfree false
  | close =>
    rw [step] at hs
    split at hs
    · next last howner =>
      rw [howner] at hflag
      cases hs
      exact ⟨hflag, fun thread ht => .inl (h.alive_of_ne (by simp [howner]) ht)⟩
    · cases hs
  | join =>
    rw [step] at hs
    split at hs
    · next last howner =>
      rw [howner] at hflag
      have hrun : s.isRunning = false := hflag
      split at hs
      · next thread hobject =>
        split_ifs at hs with halive
        cases hs
        refine ⟨?_, fun thread' ht => ?_⟩
        · cases last with
          | true => exact ⟨hrun, rfl⟩
          | false => exact ⟨hrun, rfl⟩
        · -- the runner that was waited for has returned, and there is no other one
          have hthread := h.alive_of_ne (by simp [howner]) ht
          rw [hobject] at hthread
          cases hthread
          exact absurd ht halive
      · next hobject =>
        cases hs
        have hjoin : s.joinable = false := by rw [joinable, hobject]; rfl
        refine ⟨?_, fun thread ht => .inl (h.alive_of_ne (by simp [howner]) ht)⟩
        cases last with
        | true => exact ⟨hrun, hjoin⟩
        | false => exact ⟨hrun, hjoin⟩
    · cases hs
  | destroy =>
    rw [step] at hs
    split_ifs at hs with hfree
    cases hs
    exact h.exchangeFalse hfree true
  | destruct =>
    rw [step] at hs
    split at hs
    · next howner =>
      rw [howner] at hflag
      cases hs
      rw [hflag.2]
      exact ⟨hflag, fun thread ht => .inl (h.alive_of_ne (by simp [howner]) ht)⟩
    · cases hs
  | storeFalse thread =>
    rw [step] at hs
    split_ifs at hs
    have hrun : s.isRunning = false := hok
    cases hs
    rw [← hrun]
    exact h
  | finish thread =>
    rw [step] at hs
    split_ifs at hs
    cases hs
    refine ⟨hflag, fun thread' ht => h.alive thread' ?_⟩
    dsimp only at ht
    rw [Function.update_apply] at ht
    split_ifs at ht
    exact ht

/-! ### A runner that clears the flag -/

/-- **The thread is out of reach**: it is joinable, or is going to be, and the flag does not say
so, or does not keep `Start` from making another one. -/
def Doomed (s : SafeThread) : Prop :=
  match s.owner with
  | .ready => s.isRunning = false ∧ s.joinable = true
  | .starting => s.joinable = true
  | .spawned _ => s.isRunning = false
  | _ => False

/-- A runner clears the flag. -/
theorem Inv.doomed (h : s.Inv) {a : ThreadAct} (hno : ¬ s.OwnerClears a)
    (hs : s.step a = some s') : s'.Doomed := by
  cases a with
  | storeFalse thread =>
    rw [step] at hs
    split_ifs at hs with halive
    cases hs
    have hrun : s.isRunning = true := Bool.not_eq_false _ ▸ hno
    have hflag := h.flag
    rw [Doomed]
    dsimp only
    cases howner : s.owner with
    | ready =>
      rw [howner] at hflag
      exact ⟨rfl, hflag.trans hrun⟩
    | spawned t => exact rfl
    | starting =>
      -- there is no runner yet
      rw [howner] at hflag
      have hobject := h.alive_of_ne (by simp [howner]) halive.1
      rw [FlagSays, joinable, hobject] at hflag
      cases hflag.2
    | _ =>
      rw [howner] at hflag
      simp [FlagSays, hrun] at hflag
  | _ => exact absurd trivial hno

/-- A thread out of reach has an owner that is in `Start` or free. -/
theorem Doomed.owner (h : s.Doomed) :
    (s.owner = .ready ∧ s.isRunning = false ∧ s.joinable = true) ∨
      (s.owner = .starting ∧ s.joinable = true) ∨
      ∃ thread, s.owner = .spawned thread ∧ s.isRunning = false := by
  rw [Doomed] at h
  cases howner : s.owner with
  | ready =>
    rw [howner] at h
    exact .inl ⟨rfl, h⟩
  | starting =>
    rw [howner] at h
    exact .inr (.inl ⟨rfl, h⟩)
  | spawned thread =>
    rw [howner] at h
    exact .inr (.inr ⟨thread, rfl, h⟩)
  | _ =>
    rw [howner] at h
    exact h.elim

/-- A step of a runner leaves it there. -/
theorem Doomed.of_eq (h : s.Doomed) (howner : s'.owner = s.owner) (hjoin : s'.joinable = s.joinable)
    (hrun : s.isRunning = false → s'.isRunning = false) : s'.Doomed := by
  rw [Doomed, howner]
  obtain ⟨heq, hflag, hj⟩ | ⟨heq, hj⟩ | ⟨thread, heq, hflag⟩ := h.owner
  · rw [heq]
    exact ⟨hrun hflag, hjoin.trans hj⟩
  · rw [heq]
    exact hjoin.trans hj
  · rw [heq]
    exact hrun hflag

/-- **Whatever comes next, the thread stays out of reach**, or it is left, assigned to or
destructed. -/
theorem Doomed.step (h : s.Doomed) {a : ThreadAct} (hs : s.step a = some s') (hsafe : s'.Safe) :
    s'.Doomed := by
  cases a with
  | storeFalse thread =>
    rw [SafeThread.step] at hs
    split_ifs at hs
    cases hs
    exact h.of_eq rfl rfl fun _ => rfl
  | finish thread =>
    rw [SafeThread.step] at hs
    split_ifs at hs
    cases hs
    exact h.of_eq rfl rfl id
  | start =>
    obtain ⟨howner, hrun, hjoin⟩ | ⟨howner, hjoin⟩ | ⟨thread, howner, hrun⟩ := h.owner
    · rw [SafeThread.step, howner, hrun] at hs
      cases hs
      exact hjoin
    all_goals
      rw [SafeThread.step, howner] at hs
      cases hs
  | spawn =>
    obtain ⟨howner, hrun, hjoin⟩ | ⟨howner, hjoin⟩ | ⟨thread, howner, hrun⟩ := h.owner
    · rw [SafeThread.step, howner] at hs
      cases hs
    · rw [SafeThread.step, howner] at hs
      cases hs
      have hnot : s.joinable = false := hsafe.assign _ rfl
      rw [hjoin] at hnot
      cases hnot
    · rw [SafeThread.step, howner] at hs
      cases hs
  | assign =>
    obtain ⟨howner, hrun, hjoin⟩ | ⟨howner, hjoin⟩ | ⟨thread, howner, hrun⟩ := h.owner
    · rw [SafeThread.step, howner] at hs
      cases hs
    · rw [SafeThread.step, howner] at hs
      cases hs
    · rw [SafeThread.step, howner] at hs
      dsimp only at hs
      split_ifs at hs
      · cases hs
        exact absurd rfl hsafe.goesOn
      · cases hs
        exact ⟨hrun, rfl⟩
  | stop =>
    obtain ⟨howner, hrun, hjoin⟩ | ⟨howner, hjoin⟩ | ⟨thread, howner, hrun⟩ := h.owner
    · rw [SafeThread.step, exchangeFalse, howner, hrun] at hs
      cases hs
      have hnot : s.joinable = false := hsafe.stopped rfl
      rw [hjoin] at hnot
      cases hnot
    all_goals
      rw [SafeThread.step, howner] at hs
      cases hs
  | destroy =>
    obtain ⟨howner, hrun, hjoin⟩ | ⟨howner, hjoin⟩ | ⟨thread, howner, hrun⟩ := h.owner
    · rw [SafeThread.step, exchangeFalse, howner, hrun] at hs
      cases hs
      have hnot : s.joinable = false := hsafe.destructing rfl
      rw [hjoin] at hnot
      cases hnot
    all_goals
      rw [SafeThread.step, howner] at hs
      cases hs
  | close | join | destruct =>
    obtain ⟨howner, -⟩ | ⟨howner, -⟩ | ⟨thread, howner, -⟩ := h.owner
    all_goals
      rw [SafeThread.step, howner] at hs
      cases hs

/-! ### Whole runs -/

/-- No state on the way leaves, assigns to or destructs a joinable thread. -/
def AlwaysSafe (s : SafeThread) (as : List ThreadAct) : Prop :=
  ∀ pre post s', as = pre ++ post → runFrom step s pre = some s' → s'.Safe

theorem AlwaysSafe.tail {a : ThreadAct} {as : List ThreadAct} (h : s.AlwaysSafe (a :: as))
    (hs : s.step a = some s') : s'.AlwaysSafe as := by
  rintro pre post s'' rfl hrun
  exact h (a :: pre) post s'' rfl (runFrom_cons.mpr ⟨s', hs, hrun⟩)

/-- A thread out of reach is still so at the end. -/
theorem Doomed.run {as : List ThreadAct} : ∀ {s s' : SafeThread}, s.Doomed → s.AlwaysSafe as →
    runFrom SafeThread.step s as = some s' → s'.Doomed := by
  induction as with
  | nil =>
    rintro s _ h - ⟨⟩
    exact h
  | cons a as ih =>
    intro s s' h hsafe hrun
    obtain ⟨s₁, hs, hrest⟩ := runFrom_cons.mp hrun
    have hsafe₁ := hsafe.tail hs
    exact ih (h.step hs (hsafe₁ [] as s₁ rfl rfl)) hsafe₁ hrest

/-- **In a run that is over and was safe, only the owner has cleared the flag.** -/
theorem Inv.guarded {as : List ThreadAct} : ∀ {s s' : SafeThread}, s.Inv → s.AlwaysSafe as →
    runFrom step s as = some s' → s'.owner.isOver = true → Guarded step OwnerClears s as := by
  induction as with
  | nil => exact fun _ _ _ _ => trivial
  | cons a as ih =>
    intro s s' h hsafe hrun hover
    obtain ⟨s₁, hs, hrest⟩ := runFrom_cons.mp hrun
    by_cases hok : s.OwnerClears a
    · refine ⟨hok, fun s₂ hs₂ => ?_⟩
      rw [hs, Option.some.injEq] at hs₂
      subst hs₂
      exact ih (inv_step h hok hs) (hsafe.tail hs) hrest hover
    · -- a thread out of reach does not come to the end of the destructor
      have hend := (h.doomed hok hs).run (hsafe.tail hs) hrest
      obtain ⟨howner, -⟩ | ⟨howner, -⟩ | ⟨thread, howner, -⟩ := hend.owner
      all_goals
        rw [howner] at hover
        cases hover

/-- **No joinable thread is left, assigned to or destructed, as long as only the owner clears the
flag**; and in a run in which the object has been destructed, or the process terminated, none is
only if it is so. -/
theorem safe_iff_ownerClears {as : List ThreadAct} {s : SafeThread}
    (hrun : runFrom step new as = some s) :
    (Guarded step OwnerClears new as → new.AlwaysSafe as) ∧
      (s.owner.isOver = true → new.AlwaysSafe as → Guarded step OwnerClears new as) := by
  refine ⟨fun hok => ?_, fun hover hsafe => inv_new.guarded hsafe hrun hover⟩
  rintro pre post s' rfl hpre
  exact (hok.append.1.invariant (fun _ _ _ => inv_step) inv_new hpre).safe

/-- A thread is stopped and joined, another one is made, and joined by the destructor. The first
runner clears the flag on its way out, when `Stop` has. -/
theorem safe_twoThreads : ∃ s,
    runFrom step new [.start, .spawn, .assign, .stop, .storeFalse 0, .close, .finish 0, .join,
      .start, .spawn, .assign, .destroy, .close, .finish 1, .join, .destruct] = some s ∧
    s.owner = .destroyed ∧
    new.AlwaysSafe [.start, .spawn, .assign, .stop, .storeFalse 0, .close, .finish 0, .join,
      .start, .spawn, .assign, .destroy, .close, .finish 1, .join, .destruct] :=
  ⟨_, rfl, rfl, (safe_iff_ownerClears rfl).1 (by decide)⟩

/-- `InferenceThreadRunner` when `InitializeDevice` fails: the flag is cleared, the loop is not
entered, and the runner returns. -/
def inferenceThreadRunnerFailed (thread : ℕ) : List ThreadAct :=
  [.storeFalse thread, .finish thread]

/-- **`Stop` leaves a joinable thread** when the runner has cleared the flag, and the destructor
terminates the process. -/
theorem not_alwaysSafe : ¬ ∀ as s, runFrom step new as = some s → new.AlwaysSafe as := by
  intro h
  have hall := h ([.start, .spawn, .assign] ++ inferenceThreadRunnerFailed 0 ++
    [.stop, .destroy, .destruct]) _ rfl
  have hsafe := hall ([.start, .spawn, .assign] ++ inferenceThreadRunnerFailed 0 ++ [.stop])
    [.destroy, .destruct] _ rfl rfl
  have hleft := hsafe.stopped rfl
  cases hleft

end SafeThread

end DetectBase
