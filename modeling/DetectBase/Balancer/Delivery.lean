import DetectBase.Balancer.LoadBalancer
import DetectBase.Foundations.Tokens
import Mathlib.Algebra.Order.Group.Multiset
import Mathlib.Tactic.Abel

/-!
# The delivery of results

What `RespondAsync` hands out, compared with what the dispatcher has taken from the engines. A
result only ever goes to the unit that has asked for it, and to it once, whatever the threads do
(`DetectBase.Sorted.step`). That nothing is lost or reordered between the dispatcher and a
subscriber, except what a full queue drops, rests on the subscriber having one queue: `Subscribe`
makes the queue in a section of its own, and does not look whether the map has one for the unit by
then.

`DetectBase.results_delivered` says that all is well when it never finds one, and when the
dispatcher never pushes a result into a queue that has been replaced since it was looked up
(`DetectBase.EngineLoadBalancer.Delivering`). In `DetectBase.not_delivered` a `Subscribe` that was
overtaken by an `Unsubscribe` and another `Subscribe` replaces the queue of the latter, with the
result that is in it.
-/

namespace DetectBase

variable {β : Type}

namespace BalancerEvent

/-- The result that the dispatcher takes. -/
def takenResult : BalancerEvent β → Option (OutputLayer β)
  | .taken r => some r
  | _ => none

/-- The result that is pushed. -/
def pushedResult : BalancerEvent β → Option (OutputLayer β)
  | .pushed r => some r
  | _ => none

/-- The result that is dropped. -/
def droppedResult : BalancerEvent β → Option (OutputLayer β)
  | .dropped r => some r
  | _ => none

/-- The result that is returned. -/
def returnedResult : BalancerEvent β → Option (OutputLayer β)
  | .returned _ r => some r
  | _ => none

/-- The unit that subscribes. -/
def subscribedUnit : BalancerEvent β → Option UnitID
  | .subscribed u => some u
  | _ => none

/-- The result that is returned to the unit `u`. -/
def returnedTo (u : UnitID) : BalancerEvent β → Option (OutputLayer β)
  | .returned v r => if v = u then some r else none
  | _ => none

end BalancerEvent

open BalancerEvent

/-- An event that says nothing about it leaves what is read off the log as it was. -/
theorem filterMap_log_of_none {γ : Type} {f : BalancerEvent β → Option γ} {e : BalancerEvent β}
    {log log' : List (BalancerEvent β)} (hlog : log' = log ++ [e]) (he : f e = none) :
    log'.filterMap f = log.filterMap f := by
  rw [hlog, List.filterMap_append, List.filterMap_cons_none he, List.filterMap_nil,
    List.append_nil]

/-- The results for the unit `u`. -/
def forUnit (u : UnitID) (rs : List (OutputLayer β)) : List (OutputLayer β) :=
  rs.filter (·.requesterUnitId = u)

/-- **The time between a `Subscribe` and the next `Unsubscribe`**: `since` is what has happened
since a `Subscribe` of the unit, and no section of an `Unsubscribe` of it is part of that. -/
def Window (u : UnitID) (log since : List (BalancerEvent β)) : Prop :=
  ∃ before, log = before ++ .subscribed u :: since ∧ .unsubscribe u ∉ since

namespace EngineLoadBalancer

/-- The results in the queue of a unit. -/
def queued (s : EngineLoadBalancer β) (u : UnitID) : List (OutputLayer β) :=
  ((s.camResultQs.lookup u).bind (s.queues[·]?)).elim [] (·.items)

/-- **What `RespondAsync` hands out is what it should**: results for the unit that asks, each at
most once, and to a subscriber in order, without a loss other than what its queue has dropped. -/
structure Delivered (s : EngineLoadBalancer β) : Prop where
  own : ∀ u r, .returned u r ∈ s.log → r.requesterUnitId = u
  once : (s.log.filterMap returnedResult).Subperm (s.log.filterMap takenResult)
  inOrder : ∀ u since, Window u s.log since →
    (since.filterMap (returnedTo u)).Sublist (forUnit u (s.log.filterMap takenResult))
  accounted : ∀ u since, Window u s.log since →
    (forUnit u (since.filterMap pushedResult)).Perm
      (since.filterMap (returnedTo u) ++ forUnit u (since.filterMap droppedResult) ++ s.queued u)
  bounded : ∀ u, (s.queued u).length ≤ resultQueueSize

/-- **The guard**: `Subscribe` finds no queue of the unit in the map, and the queue into which the
dispatcher pushes a result has not been replaced by another. -/
structure Delivering (s : EngineLoadBalancer β) (a : BalancerAct β) : Prop where
  fresh : ∀ t u, a = .advance t → s.threads t = .subscribeQueue u → s.camResultQs.lookup u = none
  current : ∀ r q, a = .push → s.dispatcher = .found r q →
    ∀ q', s.camResultQs.lookup r.requesterUnitId = some q' → q' = q

/-- The result that the dispatcher has in hand. -/
def inHand (s : EngineLoadBalancer β) : List (OutputLayer β) :=
  match s.dispatcher with
  | .idle => []
  | .received r | .found r _ => [r]

/-- The results in all queues, and in the hand of the dispatcher. -/
def onTheWay (s : EngineLoadBalancer β) : Multiset (OutputLayer β) :=
  (s.queues.map fun x => (x.items : Multiset (OutputLayer β))).sum + s.inHand

end EngineLoadBalancer

/-! ### To whom, and how often -/

namespace EngineLoadBalancer

/-- The units for which the queues were made: the `Subscribe` that comes to its end as number `q`
makes the queue number `q`. -/
def owners (s : EngineLoadBalancer β) : List UnitID := s.log.filterMap subscribedUnit

end EngineLoadBalancer

/-- **Every queue belongs to one unit**, and holds only results for it. -/
structure Sorted (s : EngineLoadBalancer β) : Prop where
  count : s.owners.length = s.queues.length
  map : ∀ u q, s.camResultQs.lookup u = some q → s.owners[q]? = some u
  reader : ∀ t u q, s.threads t = .respondDequeue u q → s.owners[q]? = some u
  found : ∀ r q, s.dispatcher = .found r q → s.owners[q]? = some r.requesterUnitId
  items : ∀ (q : ℕ) (x : SafeQueue (OutputLayer β)), s.queues[q]? = some x →
    ∀ r ∈ x.items, s.owners[q]? = some r.requesterUnitId
  limit : ∀ x ∈ s.queues, x.maxSize = EngineLoadBalancer.resultQueueSize ∧
    x.items.length ≤ EngineLoadBalancer.resultQueueSize
  returned : ∀ u r, .returned u r ∈ s.log → r.requesterUnitId = u

section Sorted

open EngineLoadBalancer

variable {s s' : EngineLoadBalancer β} {a : BalancerAct β} {t : ℕ} {c : BalancerCall}
  {e : BalancerEvent β}

theorem Sorted.goto (h : Sorted s) (hc : ∀ u q, c = .respondDequeue u q → s.owners[q]? = some u) :
    Sorted (s.goto t c) where
  count := h.count
  map := h.map
  reader t' u q ht' := by
    rcases eq_or_ne t' t with rfl | hne
    · rw [threads_goto, Function.update_self] at ht'
      exact hc u q ht'
    · rw [threads_goto, Function.update_of_ne hne] at ht'
      exact h.reader t' u q ht'
  found := h.found
  items := h.items
  limit := h.limit
  returned := h.returned

theorem Sorted.record (h : Sorted s) (he : subscribedUnit e = none)
    (hreturned : ∀ u r, e = .returned u r → r.requesterUnitId = u) : Sorted (s.record e) := by
  have howners : (s.record e).owners = s.owners := filterMap_log_of_none rfl he
  refine ⟨howners ▸ h.count, howners ▸ h.map, howners ▸ h.reader, howners ▸ h.found,
    howners ▸ h.items, h.limit, fun u r hr => ?_⟩
  rcases List.mem_append.mp hr with hr | hr
  · exact h.returned u r hr
  · exact hreturned u r (List.mem_singleton.mp hr).symm

/-- The map changes, but every unit has a queue of its own. -/
theorem Sorted.assign (h : Sorted s) {m : UnitMap ℕ}
    (hm : ∀ u q, m.lookup u = some q → s.owners[q]? = some u) :
    Sorted { s with camResultQs := m } :=
  ⟨h.count, hm, h.reader, h.found, h.items, h.limit, h.returned⟩

theorem Sorted.dispatch (h : Sorted s) {d : Dispatching β}
    (hd : ∀ r q, d = .found r q → s.owners[q]? = some r.requesterUnitId) :
    Sorted { s with dispatcher := d } :=
  ⟨h.count, h.map, h.reader, hd, h.items, h.limit, h.returned⟩

/-- Parts that hold no results. -/
theorem Sorted.other (h : Sorted s) {b : Bool} {us vs : Finset UnitID}
    {x : SafeQueue (OutputLayer β)} :
    Sorted { s with isTerminateInstance := b, subscribers := us, counters := vs, receiver := x } :=
  ⟨h.count, h.map, h.reader, h.found, h.items, h.limit, h.returned⟩

/-- The queues change, but no result comes into the wrong one. -/
theorem Sorted.change (h : Sorted s) {qs : List (SafeQueue (OutputLayer β))}
    (hqs : ∀ (q : ℕ) (x' : SafeQueue (OutputLayer β)), qs[q]? = some x' →
      ∃ x, s.queues[q]? = some x ∧ x'.maxSize = x.maxSize ∧
        x'.items.length ≤ resultQueueSize ∧
          ∀ r ∈ x'.items, s.owners[q]? = some r.requesterUnitId)
    (hlen : qs.length = s.queues.length) : Sorted { s with queues := qs } where
  count := h.count.trans hlen.symm
  map := h.map
  reader := h.reader
  found := h.found
  items q x' hx' := by
    obtain ⟨-, -, -, -, hitems⟩ := hqs q x' hx'
    exact hitems
  limit x' hx' := by
    obtain ⟨q, hq⟩ := List.mem_iff_getElem?.mp hx'
    obtain ⟨x, hx, hmax, hlength, -⟩ := hqs q x' hq
    exact ⟨hmax.trans (h.limit x (List.mem_of_getElem? hx)).1, hlength⟩
  returned := h.returned

/-- A queue that only loses results. -/
theorem Sorted.sub (h : Sorted s) {q : ℕ} {x x' : SafeQueue (OutputLayer β)}
    (hx : s.queues[q]? = some x) (hmax : x'.maxSize = x.maxSize)
    (hsub : x'.items.Sublist x.items) :
    ∃ x, s.queues[q]? = some x ∧ x'.maxSize = x.maxSize ∧ x'.items.length ≤ resultQueueSize ∧
      ∀ r ∈ x'.items, s.owners[q]? = some r.requesterUnitId :=
  ⟨x, hx, hmax, hsub.length_le.trans (h.limit x (List.mem_of_getElem? hx)).2,
    fun r hr => h.items q x hx r (hsub.subset hr)⟩

/-- One queue changes. -/
theorem Sorted.set (h : Sorted s) {q : ℕ} {x x' : SafeQueue (OutputLayer β)}
    (hx : s.queues[q]? = some x) (hmax : x'.maxSize = x.maxSize)
    (hlength : x'.items.length ≤ resultQueueSize)
    (hitems : ∀ r ∈ x'.items, s.owners[q]? = some r.requesterUnitId) :
    Sorted { s with queues := s.queues.set q x' } := by
  refine h.change (fun p y hy => ?_) List.length_set
  rw [List.getElem?_set] at hy
  split_ifs at hy with heq hlt
  · subst heq
    cases hy
    exact ⟨x, hx, hmax, hlength, hitems⟩
  · exact h.sub hy rfl (List.Sublist.refl _)

theorem Sorted.subscribeQueue (h : Sorted s) (t : ℕ) (u : UnitID) :
    Sorted (s.subscribeQueue t u) := by
  have howners : (s.subscribeQueue t u).owners = s.owners ++ [u] := by
    simp [EngineLoadBalancer.subscribeQueue, owners, subscribedUnit]
  -- a queue that had an owner keeps it
  have hold : ∀ {q : ℕ} {v}, s.owners[q]? = some v →
      (s.subscribeQueue t u).owners[q]? = some v := by
    intro q v hq
    rw [howners, List.getElem?_append_left (List.getElem?_eq_some_iff.mp hq).1, hq]
  refine ⟨?_, fun v q hq => ?_, fun t' v q ht' => ?_, fun r q hr => hold (h.found r q hr),
    fun q x hx r hr => ?_, fun x hx => ?_, fun v r hr => ?_⟩
  · rw [howners]
    simp [EngineLoadBalancer.subscribeQueue, h.count]
  · simp only [EngineLoadBalancer.subscribeQueue] at hq
    rcases eq_or_ne v u with rfl | hne
    · rw [AList.lookup_insert, Option.some_inj] at hq
      rw [howners, ← hq, ← h.count]
      simp
    · rw [AList.lookup_insert_ne hne] at hq
      exact hold (h.map v q hq)
  · exact hold ((h.goto (t := t) (c := .idle) nofun).reader t' v q ht')
  · simp only [EngineLoadBalancer.subscribeQueue] at hx
    rw [List.getElem?_append] at hx
    split_ifs at hx with hlt
    · exact hold (h.items q x hx r hr)
    · obtain rfl : x = .new resultQueueSize :=
        List.mem_singleton.mp (List.mem_of_getElem? hx)
      cases hr
  · rcases List.mem_append.mp hx with hx | hx
    · exact h.limit x hx
    · rw [List.mem_singleton.mp hx]
      exact ⟨rfl, Nat.zero_le _⟩
  · rcases List.mem_append.mp hr with hr | hr
    · exact h.returned v r hr
    · cases List.mem_singleton.mp hr

theorem Sorted.pushResult (h : Sorted s) {r : OutputLayer β} {q : ℕ} {x : SafeQueue (OutputLayer β)}
    (hpos : s.dispatcher = .found r q) (hx : s.queues[q]? = some x) :
    Sorted (s.pushResult r q x) := by
  obtain ⟨hmax, hlength⟩ := h.limit x (List.mem_of_getElem? hx)
  have hset : Sorted { s with queues := s.queues.set q (x.enqueue r) } := by
    refine h.set hx (by simp) ?_ fun r' hr' => ?_
    · have hle := SafeQueue.length_enqueue (q := x) (x := r) (by simp [hmax, resultQueueSize])
        (hlength.trans hmax.ge)
      exact hle.trans hmax.le
    · rcases SafeQueue.mem_items_enqueue hr' with hr' | rfl
      · exact h.items q x hx r' hr'
      · exact h.found _ q hpos
  have hlog : Sorted { s with
      queues := s.queues.set q (x.enqueue r)
      log := s.log ++ pushEvents x r } := by
    rw [pushEvents]
    cases x.oldest with
    | none => exact hset.record rfl nofun
    | some o =>
      have := (hset.record (e := .dropped o) rfl nofun).record (e := .pushed r) rfl nofun
      simpa [EngineLoadBalancer.record] using this
  exact hlog.dispatch (d := .idle) nofun

/-- **Every step keeps the results sorted.** -/
theorem Sorted.step (h : Sorted s) (hstep : s.step a = some s') : Sorted s' := by
  cases balancerStep_sound hstep with
  | refused => exact h
  | subscribe | alreadySubscribed | respondAsync | respondNothing => exact h.goto (by nofun)
  | subscribeUnit => exact (h.goto (by nofun)).other
  | subscribeQueue => exact h.subscribeQueue _ _
  | unsubscribeUnit => exact ((h.goto (by nofun)).record (by rfl) (by nofun)).other
  | notSubscribed | noQueue => exact (h.goto (by nofun)).record (by rfl) (by nofun)
  | @unsubscribeQueue t u q hpos hq =>
    have hrest :=
      (h.goto (t := t) (c := .idle) (by nofun)).record (e := .unsubscribe u) rfl (by nofun)
    refine (hrest.change (fun p y hy => ?_) (List.length_modify ..)).assign fun v p hp => ?_
    · rw [List.getElem?_modify] at hy
      obtain ⟨x, hx, rfl⟩ := Option.map_eq_some_iff.mp hy
      refine hrest.sub hx ?_ ?_
      · split_ifs <;> rfl
      · split_ifs <;> exact List.Sublist.refl _
    · rcases eq_or_ne v u with rfl | hne
      · rw [AList.lookup_erase] at hp
        cases hp
      · rw [AList.lookup_erase_ne hne] at hp
        exact hrest.map v p hp
  | terminateQueues =>
    refine (h.goto (by nofun)).change (fun q y hy => ?_) (by simp)
    rw [List.getElem?_mapIdx] at hy
    obtain ⟨x, hx, rfl⟩ := Option.map_eq_some_iff.mp hy
    refine (h.goto (by nofun)).sub hx ?_ ?_
    · split_ifs <;> rfl
    · split_ifs <;> exact List.Sublist.refl _
  | destroyUnits => exact (h.goto (by nofun)).other
  | destroyQueues => exact (h.goto (by nofun)).assign (by simp)
  | respondFind _ hq =>
    refine h.goto fun u q heq => ?_
    cases heq
    exact h.map _ _ hq
  | @respond t u q x x' r hpos hx hr =>
    have hitems := SafeQueue.items_of_dequeue hr
    have hown : r.requesterUnitId = u := by
      have hq := h.items q x hx r (by rw [hitems]; exact List.mem_cons_self)
      rw [h.reader t u q hpos] at hq
      exact (Option.some.inj hq).symm
    have hrest : Sorted ((s.goto t .idle).record (.returned u r)) := by
      refine (h.goto (by nofun)).record (by rfl) fun v r' heq => ?_
      cases heq
      exact hown
    obtain ⟨-, -, -, hlength, hsub⟩ := hrest.sub hx (SafeQueue.maxSize_of_dequeue hr)
      (hitems ▸ List.sublist_cons_self r x'.items)
    exact hrest.set hx (SafeQueue.maxSize_of_dequeue hr) hlength hsub
  | receiver | terminate => exact h.other
  | receive =>
    exact ((h.record (e := .taken _) rfl nofun).dispatch (d := .received _) nofun).other
  | find _ hq =>
    refine h.dispatch fun r q heq => ?_
    cases heq
    exact h.map _ _ hq
  | discard => exact h.dispatch (by nofun)
  | push hpos hx => exact h.pushResult hpos hx

/-! ### How often -/

/-- **What has been returned, and what is still on the way, was taken.** -/
def NoneTwice (s : EngineLoadBalancer β) : Prop :=
  (s.log.filterMap returnedResult : Multiset (OutputLayer β)) + s.onTheWay ≤
    (s.log.filterMap takenResult : Multiset (OutputLayer β))

theorem NoneTwice.of_le (h : NoneTwice s)
    (hreturned : s'.log.filterMap returnedResult = s.log.filterMap returnedResult)
    (htaken : s'.log.filterMap takenResult = s.log.filterMap takenResult)
    (hway : s'.onTheWay ≤ s.onTheWay) : NoneTwice s' := by
  rw [NoneTwice, hreturned, htaken]
  exact (add_le_add_right hway _).trans h

/-- What looks for other things finds nothing in a push. -/
theorem filterMap_pushEvents {γ : Type} {f : BalancerEvent β → Option γ}
    {x : SafeQueue (OutputLayer β)} {r : OutputLayer β} (hdrop : ∀ r, f (.dropped r) = none)
    (hpush : f (.pushed r) = none) : (pushEvents x r).filterMap f = [] := by
  cases hold : x.oldest <;> simp [pushEvents, hold, hdrop, hpush]

/-- Queues that change in other ways than in what they hold. -/
theorem onTheWay_of_items (hhand : s'.inHand = s.inHand)
    (hqs : s'.queues.map (·.items) = s.queues.map (·.items)) : s'.onTheWay = s.onTheWay := by
  have hsum := congrArg (fun l => (l.map (Multiset.ofList)).sum) hqs
  rw [List.map_map, List.map_map] at hsum
  rw [onTheWay, onTheWay, hhand]
  exact congrArg (· + (s.inHand : Multiset (OutputLayer β))) hsum

theorem NoneTwice.respond (h : NoneTwice s) {u : UnitID} {q : ℕ}
    {x x' : SafeQueue (OutputLayer β)} {r : OutputLayer β} (hx : s.queues[q]? = some x)
    (hr : x.dequeue = some (r, x')) : NoneTwice
      { (s.goto t .idle).record (.returned u r) with queues := s.queues.set q x' } := by
  obtain ⟨others, hbefore, hafter⟩ :=
    exists_sum_set (fun x => (x.items : Multiset (OutputLayer β))) hx
  rw [NoneTwice, onTheWay, hbefore, SafeQueue.items_of_dequeue hr] at h
  rw [NoneTwice, onTheWay]
  simp only [hafter, log_record, log_goto, List.filterMap_append]
  refine le_trans (le_of_eq ?_) (le_of_le_of_eq h (by simp [List.filterMap_cons, takenResult]))
  simp only [List.filterMap_cons, returnedResult, List.filterMap_nil, ← Multiset.coe_add,
    ← Multiset.cons_coe, ← Multiset.singleton_add, Multiset.coe_nil, inHand, dispatcher_record,
    dispatcher_goto]
  abel

theorem NoneTwice.push (h : NoneTwice s) {r : OutputLayer β} {q : ℕ}
    {x : SafeQueue (OutputLayer β)} (hpos : s.dispatcher = .found r q)
    (hx : s.queues[q]? = some x) : NoneTwice (s.pushResult r q x) := by
  obtain ⟨others, hbefore, hafter⟩ :=
    exists_sum_set (fun x => (x.items : Multiset (OutputLayer β))) hx
  have hsame : ∀ {f : BalancerEvent β → Option (OutputLayer β)}, (∀ r, f (.dropped r) = none) →
      f (.pushed r) = none → (s.pushResult r q x).log.filterMap f = s.log.filterMap f := by
    intro f hdrop hpush
    rw [EngineLoadBalancer.pushResult, List.filterMap_append, filterMap_pushEvents hdrop hpush,
      List.append_nil]
  refine h.of_le (hsame (fun _ => rfl) rfl) (hsame (fun _ => rfl) rfl) ?_
  -- the result goes from the hand of the dispatcher into the queue
  have hin : ((x.enqueue r).items : Multiset (OutputLayer β)) ≤ x.items + {r} := by
    rw [SafeQueue.enqueue]
    split_ifs
    · exact Multiset.coe_le.mpr ((List.tail_sublist x.items).append_right [r]).subperm
    · exact le_rfl
  rw [onTheWay, onTheWay, EngineLoadBalancer.pushResult, inHand, inHand, hpos]
  simp only [hafter, hbefore, Multiset.coe_nil, add_zero, Multiset.coe_singleton]
  refine (add_le_add_left hin others).trans (le_of_eq ?_)
  abel

/-- **No step hands a result out twice.** -/
theorem NoneTwice.step (h : NoneTwice s) (hstep : s.step a = some s') : NoneTwice s' := by
  cases balancerStep_sound hstep with
  | refused | subscribe | alreadySubscribed | respondAsync | respondNothing | subscribeUnit
  | destroyUnits | destroyQueues | respondFind | receiver | terminate => exact h
  | unsubscribeUnit | notSubscribed | noQueue =>
    exact h.of_le (by simp [returnedResult]) (by simp [takenResult]) le_rfl
  | subscribeQueue =>
    refine h.of_le (by simp [EngineLoadBalancer.subscribeQueue, returnedResult])
      (by simp [EngineLoadBalancer.subscribeQueue, takenResult]) (le_of_eq ?_)
    simp [onTheWay, EngineLoadBalancer.subscribeQueue, SafeQueue.new, inHand]
  | unsubscribeQueue =>
    refine h.of_le (by simp [returnedResult]) (by simp [takenResult]) (le_of_eq ?_)
    refine onTheWay_of_items rfl (List.ext_getElem? fun i => ?_)
    rw [List.getElem?_map, List.getElem?_map, List.getElem?_modify]
    cases s.queues[i]? with
    | none => rfl
    | some x =>
      dsimp only [Functor.map, Option.map]
      split_ifs <;> rfl
  | terminateQueues =>
    refine h.of_le rfl rfl (le_of_eq ?_)
    refine onTheWay_of_items rfl (List.ext_getElem? fun i => ?_)
    simp only [EngineLoadBalancer.terminateQueues, List.getElem?_map, List.getElem?_mapIdx,
      Option.map_map]
    congr 1
    funext x
    dsimp only [Function.comp]
    split_ifs <;> rfl
  | respond hpos hx hr => exact h.respond hx hr
  | @receive r x hpos hr =>
    rw [NoneTwice, onTheWay, inHand, hpos] at h
    rw [NoneTwice, onTheWay, inHand]
    simp only [log_record, List.filterMap_append, queues_record]
    have hadd := add_le_add_left h {r}
    simpa [List.filterMap_cons, returnedResult, takenResult, add_assoc, ← Multiset.coe_add]
      using hadd
  | find hpos =>
    refine h.of_le rfl rfl (le_of_eq ?_)
    rw [onTheWay, onTheWay, inHand, inHand, hpos]
  | discard =>
    refine h.of_le rfl rfl ?_
    rw [onTheWay, onTheWay, inHand]
    exact add_le_add_right (Multiset.zero_le _) _
  | push hpos hx => exact h.push hpos hx

end Sorted

/-! ### In which order, and with which losses -/

/-- The unit that an event is about. -/
def BalancerEvent.unit : BalancerEvent β → UnitID
  | .taken r | .pushed r | .dropped r => r.requesterUnitId
  | .returned u _ | .subscribed u | .unsubscribe u => u

/-- **The account of a unit**: its results are on their way in the order in which they were
taken, and those that were pushed since its `Subscribe` are in its queue, or have been returned or
dropped. -/
structure Account (u : UnitID) (s : EngineLoadBalancer β) : Prop where
  inOrder : (s.log.filterMap (returnedTo u) ++ s.queued u ++ forUnit u s.inHand).Sublist
    (forUnit u (s.log.filterMap takenResult))
  accounted : ∀ since, Window u s.log since → u ∈ s.camResultQs ∧
    (forUnit u (since.filterMap pushedResult)).Perm
      (since.filterMap (returnedTo u) ++ forUnit u (since.filterMap droppedResult) ++ s.queued u)

section Account

open EngineLoadBalancer

variable {s s' : EngineLoadBalancer β} {a : BalancerAct β} {t : ℕ} {u : UnitID}
  {log evs since : List (BalancerEvent β)}

@[simp] theorem forUnit_nil : forUnit u ([] : List (OutputLayer β)) = [] := rfl

@[simp] theorem forUnit_append (rs rs' : List (OutputLayer β)) :
    forUnit u (rs ++ rs') = forUnit u rs ++ forUnit u rs' := List.filter_append ..

theorem forUnit_singleton_self {r : OutputLayer β} (h : r.requesterUnitId = u) :
    forUnit u [r] = [r] := by
  simp [forUnit, h]

theorem forUnit_singleton_ne {r : OutputLayer β} (h : r.requesterUnitId ≠ u) :
    forUnit u [r] = [] := by
  simp [forUnit, h]

/-- Events that are about other units hold nothing for the unit. -/
theorem forUnit_filterMap_of_ne {f : BalancerEvent β → Option (OutputLayer β)}
    (hf : ∀ e r, f e = some r → r.requesterUnitId = e.unit) (h : ∀ e ∈ evs, e.unit ≠ u) :
    forUnit u (evs.filterMap f) = [] := by
  rw [forUnit, List.filter_eq_nil_iff]
  intro r hr
  obtain ⟨e, he, hfe⟩ := List.mem_filterMap.mp hr
  rw [hf e r hfe]
  simpa using h e he

theorem returnedTo_of_ne (h : ∀ e ∈ evs, e.unit ≠ u) : evs.filterMap (returnedTo u) = [] := by
  refine List.filterMap_eq_nil_iff.mpr fun e he => ?_
  cases e with
  | returned v r => exact if_neg (h _ he)
  | _ => rfl

/-- An event with a result that is taken, pushed or dropped is about the unit of that result. -/
theorem requesterUnitId_eq_unit {e : BalancerEvent β} {r : OutputLayer β}
    (h : e.takenResult = some r ∨ e.pushedResult = some r ∨ e.droppedResult = some r) :
    r.requesterUnitId = e.unit := by
  rcases h with h | h | h <;> cases e <;> cases h <;> rfl

/-- A window that goes on. -/
theorem Window.of_append (h : Window u (log ++ evs) since) (hevs : .subscribed u ∉ evs) :
    ∃ since₀, Window u log since₀ ∧ since = since₀ ++ evs ∧ .unsubscribe u ∉ evs := by
  obtain ⟨before, heq, hsince⟩ := h
  rcases List.append_eq_append_iff.mp heq with ⟨as, rfl, hevs'⟩ | ⟨as, rfl, hevs'⟩
  · exact absurd (by rw [hevs']; simp) hevs
  · cases as with
    | nil => exact absurd (by rw [show evs = .subscribed u :: since from hevs'.symm]; simp) hevs
    | cons e as =>
      obtain ⟨rfl, rfl⟩ := List.cons.inj hevs'
      refine ⟨as, ⟨before, rfl, fun hmem => hsince (List.mem_append_left _ hmem)⟩, rfl,
        fun hmem => hsince (List.mem_append_right _ hmem)⟩

/-- What is accounted for as a window goes on. -/
theorem Account.accounted_append (h : Account u s) (hlog : s'.log = s.log ++ evs)
    (hevs : .subscribed u ∉ evs) (hmem : u ∈ s.camResultQs → u ∈ s'.camResultQs)
    (hperm : ∀ since : List (BalancerEvent β), (forUnit u (since.filterMap pushedResult)).Perm
      (since.filterMap (returnedTo u) ++ forUnit u (since.filterMap droppedResult) ++ s.queued u) →
      (forUnit u ((since ++ evs).filterMap pushedResult)).Perm
        ((since ++ evs).filterMap (returnedTo u) ++
          forUnit u ((since ++ evs).filterMap droppedResult) ++ s'.queued u)) :
    ∀ since, Window u s'.log since → u ∈ s'.camResultQs ∧
      (forUnit u (since.filterMap pushedResult)).Perm
        (since.filterMap (returnedTo u) ++ forUnit u (since.filterMap droppedResult) ++
          s'.queued u) := by
  rw [hlog]
  intro since hsince
  obtain ⟨since₀, hsince₀, rfl, -⟩ := hsince.of_append hevs
  obtain ⟨hu, hbefore⟩ := h.accounted since₀ hsince₀
  exact ⟨hmem hu, hperm since₀ hbefore⟩

/-- **Nothing happens to the unit**, except that the dispatcher may put down a result for it. -/
theorem Account.frame (h : Account u s) (hlog : s'.log = s.log ++ evs)
    (hevs : ∀ e ∈ evs, e.unit ≠ u) (hqueued : s'.queued u = s.queued u)
    (hmem : u ∈ s.camResultQs → u ∈ s'.camResultQs)
    (hhand : (forUnit u s'.inHand).Sublist (forUnit u s.inHand)) : Account u s' := by
  constructor
  · rw [hlog, List.filterMap_append, List.filterMap_append, returnedTo_of_ne hevs, forUnit_append,
      forUnit_filterMap_of_ne (fun e r h => requesterUnitId_eq_unit (.inl h)) hevs, hqueued,
      List.append_nil, List.append_nil]
    exact (hhand.append_left _).trans h.inOrder
  · refine h.accounted_append hlog (fun hin => hevs _ hin rfl) hmem fun since hperm => ?_
    rw [hqueued, List.filterMap_append, List.filterMap_append, List.filterMap_append,
      returnedTo_of_ne hevs, forUnit_append, forUnit_append,
      forUnit_filterMap_of_ne (fun e r h => requesterUnitId_eq_unit (.inr (.inl h))) hevs,
      forUnit_filterMap_of_ne (fun e r h => requesterUnitId_eq_unit (.inr (.inr h))) hevs,
      List.append_nil, List.append_nil, List.append_nil]
    exact hperm

/-- A section of `Unsubscribe`, which ends the window. -/
theorem Account.leave (h : Account u s) (hlog : s'.log = s.log ++ [.unsubscribe u])
    (hqueued : (s'.queued u).Sublist (s.queued u)) (hhand : s'.inHand = s.inHand) :
    Account u s' := by
  constructor
  · rw [filterMap_log_of_none hlog rfl, filterMap_log_of_none hlog rfl, hhand]
    exact ((hqueued.append_left _).append_right _).trans h.inOrder
  · rw [hlog]
    intro since hsince
    obtain ⟨-, -, -, hno⟩ := hsince.of_append (by simp)
    exact absurd (List.mem_singleton_self _) hno

/-- The end of `Subscribe`, which opens the window. -/
theorem Account.enter (h : Account u s) (hlog : s'.log = s.log ++ [.subscribed u])
    (hnone : u ∉ s.camResultQs) (hmem : u ∈ s'.camResultQs) (hqueued : s'.queued u = [])
    (hhand : s'.inHand = s.inHand) : Account u s' := by
  constructor
  · rw [filterMap_log_of_none hlog rfl, filterMap_log_of_none hlog rfl, hhand, hqueued]
    exact (((List.nil_sublist (s.queued u)).append_left _).append_right _).trans h.inOrder
  · rw [hlog]
    rintro since ⟨before, heq, hno⟩
    refine ⟨hmem, ?_⟩
    rw [hqueued]
    -- the unit had no queue, so that no window was open
    rcases List.eq_nil_or_concat since with rfl | ⟨since₀, e, rfl⟩
    · exact List.Perm.refl _
    · have hconcat : s.log ++ [.subscribed u] = (before ++ .subscribed u :: since₀) ++ [e] := by
        simpa using heq
      obtain ⟨hlog₀, -⟩ := List.append_inj' hconcat rfl
      have hopen : Window u s.log since₀ :=
        ⟨before, hlog₀, fun hmem => hno (by simp [hmem])⟩
      exact absurd (h.accounted since₀ hopen).1 hnone

/-- `RespondAsync` returns the oldest result of the queue. -/
theorem Account.respond (h : Account u s) {r : OutputLayer β}
    (hlog : s'.log = s.log ++ [.returned u r]) (hqueued : s.queued u = r :: s'.queued u)
    (hmem : s'.camResultQs = s.camResultQs) (hhand : s'.inHand = s.inHand) : Account u s' := by
  constructor
  · have hin := h.inOrder
    rw [hqueued] at hin
    rw [hlog, hhand]
    simpa [List.filterMap_cons, returnedTo, takenResult] using hin
  · refine h.accounted_append hlog (by simp) (hmem ▸ id) fun since hperm => ?_
    rw [hqueued] at hperm
    simp only [List.filterMap_append, forUnit_append]
    simp only [List.filterMap_cons, List.filterMap_nil, pushedResult, droppedResult, returnedTo,
      if_true, forUnit_nil, List.append_nil, List.append_assoc]
    simp only [List.append_assoc] at hperm
    refine hperm.trans (List.Perm.append_left _ ?_)
    exact List.perm_middle

/-- The dispatcher takes a result for the unit. -/
theorem Account.receive (h : Account u s) {r : OutputLayer β} (hr : r.requesterUnitId = u)
    (hlog : s'.log = s.log ++ [.taken r]) (hqueued : s'.queued u = s.queued u)
    (hmem : s'.camResultQs = s.camResultQs) (hhand : s.inHand = []) (hhand' : s'.inHand = [r]) :
    Account u s' := by
  constructor
  · have hin := h.inOrder
    rw [hhand, forUnit_nil, List.append_nil] at hin
    rw [hlog, hhand', hqueued, forUnit_singleton_self hr]
    have happend := hin.append (List.Sublist.refl [r])
    simpa [List.filterMap_cons, returnedTo, takenResult, forUnit_singleton_self hr] using happend
  · refine h.accounted_append hlog (by simp) (hmem ▸ id) fun since hperm => ?_
    rw [hqueued]
    simpa [List.filterMap_cons, returnedTo, pushedResult, droppedResult] using hperm

theorem pushed_pushEvents {x : SafeQueue (OutputLayer β)} {r : OutputLayer β} :
    (pushEvents x r).filterMap pushedResult = [r] := by
  cases hold : x.oldest <;> simp [pushEvents, hold, List.filterMap_cons, pushedResult]

theorem dropped_pushEvents {x : SafeQueue (OutputLayer β)} {r : OutputLayer β} :
    (pushEvents x r).filterMap droppedResult = x.oldest.toList := by
  cases hold : x.oldest <;> simp [pushEvents, hold, List.filterMap_cons, droppedResult]

/-- The dispatcher pushes a result into the queue of the unit. -/
theorem Account.push (h : Account u s) {r : OutputLayer β} {x : SafeQueue (OutputLayer β)}
    (hr : r.requesterUnitId = u) (hx : ∀ r ∈ x.items, r.requesterUnitId = u)
    (hlog : s'.log = s.log ++ pushEvents x r)
    (hqueued : s.queued u = x.items) (hqueued' : s'.queued u = (x.enqueue r).items)
    (hmem : s'.camResultQs = s.camResultQs) (hhand : s.inHand = [r]) (hhand' : s'.inHand = []) :
    Account u s' := by
  have hmove := x.oldest_append_enqueue r
  have hdropped : forUnit u x.oldest.toList = x.oldest.toList := by
    refine List.filter_eq_self.mpr fun r' hr' => ?_
    have hr'' : r' ∈ x.items ++ [r] := hmove ▸ List.mem_append_left _ hr'
    rcases List.mem_append.mp hr'' with hr'' | hr''
    · simpa using hx r' hr''
    · rw [List.mem_singleton.mp hr'']
      simpa using hr
  constructor
  · have hin := h.inOrder
    rw [hqueued, hhand, forUnit_singleton_self hr, List.append_assoc, ← hmove] at hin
    rw [hlog, hhand', hqueued', List.filterMap_append, List.filterMap_append,
      filterMap_pushEvents (fun _ => rfl) rfl, filterMap_pushEvents (fun _ => rfl) rfl,
      List.append_nil, List.append_nil, forUnit_nil, List.append_nil]
    exact ((List.sublist_append_right _ _).append_left _).trans hin
  · refine h.accounted_append hlog (by simp [pushEvents]) (hmem ▸ id) fun since hperm => ?_
    rw [hqueued] at hperm
    rw [hqueued', List.filterMap_append, List.filterMap_append, List.filterMap_append,
      pushed_pushEvents, dropped_pushEvents, filterMap_pushEvents (fun _ => rfl) rfl,
      forUnit_append, forUnit_append, hdropped, forUnit_singleton_self hr, List.append_nil,
      List.append_assoc, List.append_assoc, hmove]
    simpa using hperm.append_right [r]

/-- The dispatcher pushes a result into a queue that the unit has left. -/
theorem Account.pushInto (h : Account u s) {r : OutputLayer β} {x : SafeQueue (OutputLayer β)}
    (hlog : s'.log = s.log ++ pushEvents x r) (hnone : u ∉ s.camResultQs)
    (hqueued : s'.queued u = s.queued u) (hhand' : s'.inHand = []) : Account u s' := by
  constructor
  · rw [hlog, hhand', hqueued, List.filterMap_append, List.filterMap_append,
      filterMap_pushEvents (fun _ => rfl) rfl, filterMap_pushEvents (fun _ => rfl) rfl,
      List.append_nil, List.append_nil]
    exact ((List.nil_sublist _).append_left _).trans h.inOrder
  · rw [hlog]
    intro since hsince
    obtain ⟨since₀, hsince₀, rfl, -⟩ := hsince.of_append (by simp [pushEvents])
    exact absurd (h.accounted since₀ hsince₀).1 hnone

end Account

/-! ### One queue for a subscriber -/

/-- **The invariant of a guarded run**: of the queues that were made for a unit, only the one in the
map still works. -/
structure Attended (s : EngineLoadBalancer β) : Prop where
  sorted : Sorted s
  retired : ∀ (q : ℕ) (x : SafeQueue (OutputLayer β)) (u : UnitID), s.queues[q]? = some x →
    x.terminated = false → s.owners[q]? = some u → s.camResultQs.lookup u = some q
  account : ∀ u, Account u s
  /-- No `DestroySubscribersAll` is in progress. -/
  calm : ∀ t, s.threads t ≠ .destroyUnits ∧ s.threads t ≠ .destroyQueues

section Attended

open EngineLoadBalancer

variable {s s' : EngineLoadBalancer β} {a : BalancerAct β} {t : ℕ} {c : BalancerCall} {u : UnitID}
  {q : ℕ} {x : SafeQueue (OutputLayer β)}

theorem queued_of_lookup (hq : s.camResultQs.lookup u = some q) (hx : s.queues[q]? = some x) :
    s.queued u = x.items := by
  rw [queued, hq, Option.bind_some, hx]
  rfl

theorem queued_of_none (hq : s.camResultQs.lookup u = none) : s.queued u = [] := by
  rw [queued, hq]
  rfl

theorem queued_congr (hmap : s'.camResultQs.lookup u = s.camResultQs.lookup u)
    (hqs : ∀ q : ℕ, s.camResultQs.lookup u = some q → s'.queues[q]? = s.queues[q]?) :
    s'.queued u = s.queued u := by
  rw [queued, queued, hmap]
  cases hq : s.camResultQs.lookup u with
  | none => rfl
  | some q => rw [Option.bind_some, Option.bind_some, hqs q hq]

/-- The queue of a unit is none of those made for another. -/
theorem Sorted.ne_of_ne (h : Sorted s) {v : UnitID} {p : ℕ} (howner : s.owners[q]? = some u)
    (hp : s.camResultQs.lookup v = some p) (hne : v ≠ u) : q ≠ p := by
  rintro rfl
  rw [h.map v q hp] at howner
  exact hne (Option.some.inj howner)

theorem Attended.calm_goto (h : Attended s) (hc : c ≠ .destroyUnits ∧ c ≠ .destroyQueues) (t' : ℕ) :
    (s.goto t c).threads t' ≠ .destroyUnits ∧ (s.goto t c).threads t' ≠ .destroyQueues := by
  rw [threads_goto]
  rcases eq_or_ne t' t with rfl | hne
  · rwa [Function.update_self]
  · rw [Function.update_of_ne hne]
    exact h.calm t'

/-- A thread goes on, and nothing else changes. -/
theorem Attended.goto (h : Attended s) (hsorted : Sorted (s.goto t c))
    (hc : c ≠ .destroyUnits ∧ c ≠ .destroyQueues) : Attended (s.goto t c) :=
  ⟨hsorted, h.retired, fun u => ⟨(h.account u).inOrder, (h.account u).accounted⟩, h.calm_goto hc⟩

/-- A section of `Unsubscribe` that finds no queue to remove. -/
theorem Attended.leave (h : Attended s) (hsorted : Sorted s')
    (hlog : s'.log = s.log ++ [.unsubscribe u]) (hqs : s'.queues = s.queues)
    (hmap : s'.camResultQs = s.camResultQs) (hd : s'.dispatcher = s.dispatcher)
    (hcalm : ∀ t, s'.threads t ≠ .destroyUnits ∧ s'.threads t ≠ .destroyQueues) : Attended s' := by
  have howners : s'.owners = s.owners := filterMap_log_of_none hlog rfl
  have hhand : s'.inHand = s.inHand := by rw [inHand, inHand, hd]
  have hqueued : ∀ v, s'.queued v = s.queued v := fun v => by rw [queued, queued, hqs, hmap]
  refine ⟨hsorted, ?_, fun v => ?_, hcalm⟩
  · rw [hqs, hmap, howners]
    exact h.retired
  · rcases eq_or_ne u v with rfl | hne
    · exact (h.account u).leave hlog (hqueued u ▸ List.Sublist.refl _) hhand
    · refine (h.account v).frame hlog (fun e he => ?_) (hqueued v) (by rw [hmap]; exact id)
        (hhand ▸ List.Sublist.refl _)
      rw [List.mem_singleton.mp he]
      exact hne

theorem Attended.subscribeQueue (h : Attended s) (hfresh : s.camResultQs.lookup u = none) :
    Attended (s.subscribeQueue t u) := by
  have howners : (s.subscribeQueue t u).owners = s.owners ++ [u] := by
    simp [EngineLoadBalancer.subscribeQueue, owners, subscribedUnit]
  have hlog : (s.subscribeQueue t u).log = s.log ++ [.subscribed u] := rfl
  refine ⟨h.sorted.subscribeQueue t u, fun q x v hx hterm hq => ?_, fun v => ?_,
    h.calm_goto (by simp)⟩
  · simp only [EngineLoadBalancer.subscribeQueue] at hx ⊢
    rw [howners] at hq
    rcases lt_or_ge q s.queues.length with hlt | hge
    · rw [List.getElem?_append_left hlt] at hx
      rw [List.getElem?_append_left (h.sorted.count ▸ hlt)] at hq
      have hold := h.retired q x v hx hterm hq
      -- no queue of the unit was working
      have hne : v ≠ u := by
        rintro rfl
        rw [hfresh] at hold
        cases hold
      rw [AList.lookup_insert_ne hne, hold]
    · rw [List.getElem?_append_right (h.sorted.count ▸ hge)] at hq
      obtain ⟨hlt, hqu⟩ := List.getElem?_eq_some_iff.mp hq
      simp only [List.length_singleton, h.sorted.count] at hlt
      obtain rfl : q = s.queues.length := by omega
      have huv : u = v := by simpa using hqu
      rw [← huv, AList.lookup_insert]
  · rcases eq_or_ne v u with rfl | hne
    · refine (h.account v).enter hlog (AList.lookup_eq_none.mp hfresh)
        ((AList.mem_insert _).mpr (Or.inl rfl)) ?_ rfl
      refine queued_of_lookup (x := .new resultQueueSize) (AList.lookup_insert _) ?_
      simp [EngineLoadBalancer.subscribeQueue]
    · refine (h.account v).frame hlog (fun e he => ?_) ?_
        (fun hmem => (AList.mem_insert _).mpr (Or.inr hmem)) (List.Sublist.refl _)
      · rw [List.mem_singleton.mp he]
        exact hne.symm
      · refine queued_congr (AList.lookup_insert_ne hne) fun q hq => ?_
        have hlt : q < s.queues.length :=
          h.sorted.count ▸ (List.getElem?_eq_some_iff.mp (h.sorted.map v q hq)).1
        exact List.getElem?_append_left hlt

theorem Attended.unsubscribeQueue (h : Attended s) (hsorted : Sorted s')
    (hq : s.camResultQs.lookup u = some q) (hlog : s'.log = s.log ++ [.unsubscribe u])
    (hmap : s'.camResultQs = s.camResultQs.erase u)
    (hqs : s'.queues = s.queues.modify q SafeQueue.terminate) (hd : s'.dispatcher = s.dispatcher)
    (hcalm : ∀ t, s'.threads t ≠ .destroyUnits ∧ s'.threads t ≠ .destroyQueues) : Attended s' := by
  have howners : s'.owners = s.owners := filterMap_log_of_none hlog rfl
  have hhand : s'.inHand = s.inHand := by rw [inHand, inHand, hd]
  refine ⟨hsorted, fun p y v hy hterm hp => ?_, fun v => ?_, hcalm⟩
  · rw [hqs, List.getElem?_modify] at hy
    obtain ⟨x, hx, rfl⟩ := Option.map_eq_some_iff.mp hy
    split_ifs at hterm with hpq
    · cases hterm
    · have hold := h.retired p x v hx hterm (howners ▸ hp)
      have hne : v ≠ u := by
        rintro rfl
        rw [hq] at hold
        exact hpq (Option.some.inj hold)
      rw [hmap, AList.lookup_erase_ne hne, hold]
  · rcases eq_or_ne v u with rfl | hne
    · refine (h.account v).leave hlog ?_ hhand
      rw [queued_of_none (s := s') (by rw [hmap, AList.lookup_erase])]
      exact List.nil_sublist _
    · have hlookup : s'.camResultQs.lookup v = s.camResultQs.lookup v := by
        rw [hmap, AList.lookup_erase_ne hne]
      refine (h.account v).frame hlog (fun e he => ?_) (queued_congr hlookup fun p hp => ?_)
        (fun hmem => by rw [hmap]; exact AList.mem_erase.mpr ⟨hne, hmem⟩)
        (hhand ▸ List.Sublist.refl _)
      · rw [List.mem_singleton.mp he]
        exact hne.symm
      · rw [hqs, List.getElem?_modify_ne _ _ (h.sorted.ne_of_ne (h.sorted.map u q hq) hp hne)]

/-- The queue number `q`, which was made for the unit `u`, changes in what it holds. -/
theorem Attended.set (h : Attended s) {x' : SafeQueue (OutputLayer β)}
    {evs : List (BalancerEvent β)}
    (hsorted : Sorted s') (howner : s.owners[q]? = some u) (hx : s.queues[q]? = some x)
    (hterm : x'.terminated = x.terminated) (hlog : s'.log = s.log ++ evs)
    (hevs : ∀ e ∈ evs, e.unit = u ∧ e.subscribedUnit = none)
    (hmap : s'.camResultQs = s.camResultQs) (hqs : s'.queues = s.queues.set q x')
    (hhand : ∀ v ≠ u, (forUnit v s'.inHand).Sublist (forUnit v s.inHand))
    (haccount : Account u s')
    (hcalm : ∀ t, s'.threads t ≠ .destroyUnits ∧ s'.threads t ≠ .destroyQueues) : Attended s' := by
  have howners : s'.owners = s.owners := by
    rw [owners, hlog, List.filterMap_append,
      List.filterMap_eq_nil_iff.mpr fun e he => (hevs e he).2, List.append_nil, owners]
  refine ⟨hsorted, fun p y v hy hworks hp => ?_, fun v => ?_, hcalm⟩
  · rw [hmap]
    rw [howners] at hp
    rw [hqs, List.getElem?_set] at hy
    split_ifs at hy with hpq hlt
    · subst hpq
      cases hy
      exact h.retired q x v hx (hterm ▸ hworks) hp
    · exact h.retired p y v hy hworks hp
  · rcases eq_or_ne v u with rfl | hne
    · exact haccount
    · refine (h.account v).frame hlog (fun e he => ?_) (queued_congr (by rw [hmap]) fun p hp => ?_)
        (by rw [hmap]; exact id) (hhand v hne)
      · rw [(hevs e he).1]
        exact hne.symm
      · rw [hqs, List.getElem?_set_ne (h.sorted.ne_of_ne howner hp hne)]

theorem pushEvents_unit {r : OutputLayer β} {e : BalancerEvent β}
    (hitems : ∀ r' ∈ x.items, r'.requesterUnitId = r.requesterUnitId) (he : e ∈ pushEvents x r) :
    e.unit = r.requesterUnitId ∧ e.subscribedUnit = none := by
  rcases List.mem_append.mp he with he | he
  · obtain ⟨r', hr', rfl⟩ := List.mem_map.mp he
    have hmem : r' ∈ x.items ++ [r] :=
      x.oldest_append_enqueue r ▸ List.mem_append_left _ hr'
    rcases List.mem_append.mp hmem with hmem | hmem
    · exact ⟨hitems r' hmem, rfl⟩
    · rw [List.mem_singleton.mp hmem]
      exact ⟨rfl, rfl⟩
  · rw [List.mem_singleton.mp he]
    exact ⟨rfl, rfl⟩

/-- What the dispatcher does before it pushes a result. -/
theorem Attended.dispatch (h : Attended s) (hsorted : Sorted s') (hlog : s'.log = s.log)
    (hmap : s'.camResultQs = s.camResultQs) (hqs : s'.queues = s.queues)
    (hhand : s'.inHand.Sublist s.inHand) (hthreads : s'.threads = s.threads) : Attended s' := by
  have howners : s'.owners = s.owners := by rw [owners, hlog, owners]
  refine ⟨hsorted, by rw [hqs, hmap, howners]; exact h.retired, fun v => ?_,
    by rw [hthreads]; exact h.calm⟩
  exact (h.account v).frame (hlog.trans (List.append_nil _).symm) nofun
    (by rw [queued, queued, hmap, hqs]) (by rw [hmap]; exact id) (hhand.filter _)

/-- **A step of the four operations that meets the guard keeps the invariant.** -/
theorem Attended.step (h : Attended s) (hok : s.Delivering a)
    (hop : ∀ t, a ≠ .destroySubscribersAll t) (hstep : s.step a = some s') : Attended s' := by
  have hsorted := h.sorted.step hstep
  cases balancerStep_sound hstep with
  | refused => exact h
  | subscribe | alreadySubscribed | respondAsync | respondNothing | respondFind =>
    exact h.goto hsorted (by simp)
  | @subscribeUnit t u =>
    exact ⟨hsorted, h.retired, fun v => ⟨(h.account v).inOrder, (h.account v).accounted⟩,
      h.calm_goto (by simp)⟩
  | subscribeQueue hpos => exact h.subscribeQueue (hok.fresh _ _ rfl hpos)
  | unsubscribeUnit | notSubscribed | noQueue =>
    exact h.leave hsorted rfl rfl rfl rfl (h.calm_goto (by simp))
  | unsubscribeQueue _ hq =>
    exact h.unsubscribeQueue hsorted hq rfl rfl rfl rfl (h.calm_goto (by simp))
  | terminateQueues => exact absurd rfl (hop _)
  | destroyUnits hpos => exact absurd hpos (h.calm _).1
  | destroyQueues hpos => exact absurd hpos (h.calm _).2
  | @respond t u q x x' r hpos hx hr =>
    have hterm := SafeQueue.terminated_of_dequeue hr
    have howner := h.sorted.reader t u q hpos
    -- the queue still works, so it is the one in the map
    have hq := h.retired q x u hx hterm.1 howner
    refine h.set hsorted howner hx (hterm.2.trans hterm.1.symm) rfl (fun e he => ?_) rfl rfl
      (fun v _ => List.Sublist.refl _) ((h.account u).respond rfl ?_ rfl rfl)
      (h.calm_goto (by simp))
    · rw [List.mem_singleton.mp he]
      exact ⟨rfl, rfl⟩
    · rw [queued_of_lookup hq hx, SafeQueue.items_of_dequeue hr]
      refine congrArg _ (Eq.symm (queued_of_lookup hq ?_))
      exact List.getElem?_set_self (List.getElem?_eq_some_iff.mp hx).1
  | receiver | terminate =>
    exact h.dispatch hsorted rfl rfl rfl (List.Sublist.refl _) rfl
  | @receive r x hpos hr =>
    have hhand : s.inHand = [] := by rw [inHand, hpos]
    refine ⟨hsorted, ?_, fun v => ?_, h.calm⟩
    · have howners : (s.record (.taken r)).owners = s.owners := filterMap_log_of_none rfl rfl
      exact howners ▸ h.retired
    · rcases eq_or_ne r.requesterUnitId v with hv | hv
      · exact (h.account v).receive hv rfl rfl rfl hhand rfl
      · have hnone : forUnit v [r] = [] := forUnit_singleton_ne hv
        refine (h.account v).frame rfl (fun e he => ?_) rfl id (hnone ▸ List.nil_sublist _)
        rw [List.mem_singleton.mp he]
        exact hv
  | find hpos hq =>
    refine h.dispatch hsorted rfl rfl rfl ?_ rfl
    rw [inHand, inHand, hpos]
  | discard => exact h.dispatch hsorted rfl rfl rfl (List.nil_sublist _) rfl
  | @push r q x hpos hx =>
    have howner := h.sorted.found r q hpos
    have hhand : s.inHand = [r] := by rw [inHand, hpos]
    have hitems : ∀ r' ∈ x.items, r'.requesterUnitId = r.requesterUnitId := fun r' hr' =>
      Option.some.inj ((h.sorted.items q x hx r' hr').symm.trans howner)
    refine h.set hsorted howner hx (SafeQueue.terminated_enqueue x r) rfl
      (fun e he => pushEvents_unit hitems he) rfl rfl (fun v _ => List.nil_sublist _) ?_ h.calm
    · cases hlookup : s.camResultQs.lookup r.requesterUnitId with
      | none =>
        refine (h.account _).pushInto rfl (AList.lookup_eq_none.mp hlookup) ?_ rfl
        rw [queued_of_none hlookup]
        exact queued_of_none hlookup
      | some q' =>
        obtain rfl := hok.current r q rfl hpos q' hlookup
        refine (h.account _).push rfl hitems rfl (queued_of_lookup hlookup hx)
          (queued_of_lookup hlookup ?_) rfl hhand rfl
        exact List.getElem?_set_self (List.getElem?_eq_some_iff.mp hx).1

end Attended

/-! ### Runs -/

section Runs

open EngineLoadBalancer

theorem sorted_new : Sorted (new : EngineLoadBalancer β) where
  count := rfl
  map u q hq := by simp [new] at hq
  reader t u q ht := by simp [new] at ht
  found r q hr := by simp [new] at hr
  items q x hx := by simp [new] at hx
  limit x hx := by simp [new] at hx
  returned u r hr := by simp [new] at hr

theorem attended_new : Attended (new : EngineLoadBalancer β) where
  sorted := sorted_new
  retired q x u hx := by simp [new] at hx
  account u := by
    refine ⟨List.Sublist.refl _, ?_⟩
    rintro since ⟨before, heq, -⟩
    simp [new] at heq
  calm t := by simp [new]

/-- **Results are delivered as they should be**, in every run of the four operations in which
`Subscribe` finds no queue of its unit and the dispatcher pushes into no queue that has been
replaced. -/
theorem results_delivered (s : EngineLoadBalancer β) (as : List (BalancerAct β))
    (hops : ∀ a ∈ as, ∀ t, a ≠ .destroySubscribersAll t) (hok : Guarded step Delivering new as)
    (hrun : runFrom step new as = some s) : s.Delivered := by
  have hops' : Guarded step (fun _ a => ∀ t, a ≠ .destroySubscribersAll t)
      (new : EngineLoadBalancer β) as :=
    guarded_iff.mpr fun pre a post _ heq _ => hops a (by rw [heq]; simp)
  have h : Attended s := (hok.and hops').invariant
    (fun _ _ _ hs ha hstep => hs.step ha.1 ha.2 hstep) attended_new hrun
  have hnone : NoneTwice s :=
    hops'.invariant (fun _ _ _ hs _ hstep => hs.step hstep)
      (by simp [NoneTwice, onTheWay, new, inHand]) hrun
  refine ⟨h.sorted.returned, ?_, fun u since hsince => ?_, fun u since hsince => ?_, fun u => ?_⟩
  · exact Multiset.coe_le.mp ((Multiset.le_add_right _ _).trans hnone)
  · obtain ⟨before, hlog, -⟩ := hsince
    have hsub : (since.filterMap (returnedTo u)).Sublist (s.log.filterMap (returnedTo u)) := by
      rw [hlog]
      exact ((List.sublist_cons_self _ _).trans (List.sublist_append_right _ _)).filterMap _
    have hin := (h.account u).inOrder
    rw [List.append_assoc] at hin
    exact hsub.trans ((List.sublist_append_left _ _).trans hin)
  · exact ((h.account u).accounted since hsince).2
  · cases hq : s.camResultQs.lookup u with
    | none => simp [queued_of_none hq]
    | some q =>
      cases hx : s.queues[q]? with
      | none => simp [queued, hq, hx]
      | some x =>
        rw [queued_of_lookup hq hx]
        exact (h.sorted.limit x (List.mem_of_getElem? hx)).2

theorem EngineLoadBalancer.Delivering.of_ne {s : EngineLoadBalancer β} {a : BalancerAct β}
    (hadvance : ∀ t, a ≠ .advance t) (hpush : a ≠ .push) : s.Delivering a :=
  ⟨fun t _ ha => absurd ha (hadvance t), fun _ _ ha => absurd ha hpush⟩

/-- The unit 7 subscribes, and an engine has a result for it, which is returned. -/
def oneResult : List (BalancerAct Unit) :=
  [.subscribe 0 7, .advance 0, .advance 0, .emit ⟨7, ()⟩, .receive, .find, .push,
    .respondAsync 0 7, .advance 0, .advance 0]

/-- The result gets to the unit. -/
theorem delivered_oneResult : ∃ s : EngineLoadBalancer Unit,
    runFrom step new oneResult = some s ∧ s.log.filterMap (returnedTo 7) = [⟨7, ()⟩] ∧
      s.Delivered := by
  refine ⟨_, rfl, rfl, results_delivered _ oneResult ?_ ?_ rfl⟩
  · intro a ha t
    rintro rfl
    simp [oneResult] at ha
  · refine ⟨.of_ne nofun nofun, fun s hs => ?_⟩
    cases hs
    refine ⟨⟨?_, nofun⟩, fun s hs => ?_⟩
    · rintro t u ⟨⟩ ⟨⟩
    cases hs
    refine ⟨⟨?_, nofun⟩, fun s hs => ?_⟩
    · rintro t u ⟨⟩ ⟨⟩
      rfl
    cases hs
    iterate 3
      refine ⟨.of_ne nofun nofun, fun s hs => ?_⟩
      cases hs
    refine ⟨⟨nofun, ?_⟩, fun s hs => ?_⟩
    · rintro r q - ⟨⟩ q' hq'
      exact (Option.some.inj hq').symm
    cases hs
    refine ⟨.of_ne nofun nofun, fun s hs => ?_⟩
    cases hs
    iterate 2
      refine ⟨⟨?_, nofun⟩, fun s hs => ?_⟩
      · rintro t u ⟨⟩ ⟨⟩
      cases hs
    trivial

/-- Thread 0 subscribes the unit 7 and is overtaken by thread 1, which unsubscribes it and
subscribes it again. A result comes in before thread 0 goes on. -/
def overtakenSubscribe : List (BalancerAct Unit) :=
  [.subscribe 0 7, .advance 0, .unsubscribe 1 7, .advance 1, .subscribe 1 7, .advance 1,
    .advance 1, .emit ⟨7, ()⟩, .receive, .find, .push, .advance 0]

/-- The result is lost with the queue that thread 0 replaces. -/
theorem not_delivered :
    ¬ ∀ (s : EngineLoadBalancer Unit) (as : List (BalancerAct Unit)),
      (∀ a ∈ as, ∀ t, a ≠ .destroySubscribersAll t) → runFrom step new as = some s →
        s.Delivered := by
  intro h
  have hops : ∀ a ∈ overtakenSubscribe, ∀ t, a ≠ .destroySubscribersAll t := by
    intro a ha t
    rintro rfl
    simp [overtakenSubscribe] at ha
  have hperm := (h _ overtakenSubscribe hops rfl).accounted 7
    [.taken ⟨7, ()⟩, .pushed ⟨7, ()⟩, .subscribed 7]
    ⟨[.unsubscribe 7, .unsubscribe 7], rfl, by simp⟩
  have hlength := hperm.length_eq
  revert hlength
  decide

end Runs

end DetectBase
