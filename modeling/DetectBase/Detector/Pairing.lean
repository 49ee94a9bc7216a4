import DetectBase.Detector.Pipeline
import DetectBase.Foundations.InStep
import DetectBase.Foundations.Tokens
import Mathlib.Algebra.Order.Group.Multiset
import Mathlib.Algebra.BigOperators.Group.List.Basic

/-!
# Which answer goes with which frame

The response thread merges whatever comes first in a result queue into the inflight item it has in
hand; nothing but the order makes it the answer for the frame of the item. The order is right as
long as

* the answers to a client leave the handlers in the order of its requests,
* no answer is dropped from the result queue of a client, and no item from the queue of items,
* the response thread gives up no engine of an item.

Then every answer is merged into the item with its own `correlation_id`
(`DetectBase.merged_correlationId`). Where a handler overtakes another, or the response thread
times out, it need not be, and the pairings that follow are shifted too.

For each client, the frames awaited, those delivered and those pending in the handlers are two
queues in step (`DetectBase.InStep`); the steps of the pipeline are the moves of that file or leave
all three alone (`DetectBase.Paired`).
-/

namespace DetectBase

open Pipeline

/-! ### The three collections of a client -/

/-- The frames of the requests or answers of a client. -/
def framesOf (u : UnitID) (rs : List StreamMetaData) : List ℕ :=
  (rs.filter (·.requesterUnitId = u)).map (·.frame)

@[simp] theorem framesOf_nil (u : UnitID) : framesOf u [] = [] := rfl

@[simp] theorem framesOf_append (u : UnitID) (rs rs' : List StreamMetaData) :
    framesOf u (rs ++ rs') = framesOf u rs ++ framesOf u rs' := by
  simp [framesOf]

theorem framesOf_cons_self {u : UnitID} {r : StreamMetaData} (h : r.requesterUnitId = u)
    (rs : List StreamMetaData) : framesOf u (r :: rs) = r.frame :: framesOf u rs := by
  simp [framesOf, h]

theorem framesOf_cons_ne {u : UnitID} {r : StreamMetaData} (h : r.requesterUnitId ≠ u)
    (rs : List StreamMetaData) : framesOf u (r :: rs) = framesOf u rs := by
  simp [framesOf, h]

theorem mem_framesOf {u : UnitID} {rs : List StreamMetaData} {f : ℕ} :
    f ∈ framesOf u rs ↔ ∃ r ∈ rs, r.requesterUnitId = u ∧ r.frame = f := by
  simp [framesOf, and_assoc]

/-- The answers that an item awaits from a client's engine. -/
def InflightItem.slots (u : UnitID) (it : InflightItem) : List ℕ :=
  (it.engines.filter (· = u)).map fun _ => it.frame

theorem InflightItem.slots_nil (u : UnitID) (f : ℕ) : (⟨f, []⟩ : InflightItem).slots u = [] := rfl

theorem InflightItem.slots_cons (u v : UnitID) (f : ℕ) (vs : List UnitID) :
    (⟨f, v :: vs⟩ : InflightItem).slots u =
      if v = u then f :: (⟨f, vs⟩ : InflightItem).slots u
      else (⟨f, vs⟩ : InflightItem).slots u := by
  by_cases h : v = u <;> simp [slots, h]

theorem InflightItem.slots_append (u v : UnitID) (f : ℕ) (vs : List UnitID) :
    (⟨f, vs ++ [v]⟩ : InflightItem).slots u =
      (⟨f, vs⟩ : InflightItem).slots u ++ if v = u then [f] else [] := by
  by_cases h : v = u <;> simp [slots, h]

theorem InflightItem.eq_of_mem_slots {u : UnitID} {it : InflightItem} {f : ℕ}
    (h : f ∈ it.slots u) : f = it.frame := by
  obtain ⟨v, -, rfl⟩ := List.mem_map.mp h
  rfl

/-- The item that the inference thread is putting together. -/
def Requesting.item : Requesting → Option InflightItem
  | idle => none
  | request f _ requested => some ⟨f, requested⟩
  | check f _ _ requested _ => some ⟨f, requested⟩
  | enqueue f _ _ requested _ => some ⟨f, requested⟩

/-- The engines that the inference thread has still to ask. -/
def Requesting.todo : Requesting → List UnitID
  | idle => []
  | request _ todo _ => todo
  | check _ u todo _ _ => u :: todo
  | enqueue _ u todo _ _ => u :: todo

namespace Pipeline

/-- All items, in the order in which the response thread is going to serve them. -/
def inflight (s : Pipeline) : List InflightItem :=
  s.responding.toList ++ s.inflightQ.items ++ s.requesting.item.toList

/-- The frames for which the response thread is going to ask the queue of a client. -/
def awaited (u : UnitID) (s : Pipeline) : List ℕ := s.inflight.flatMap (·.slots u)

/-- The frames whose answers have left the handlers. -/
def delivered (u : UnitID) (s : Pipeline) : List ℕ :=
  ((s.resultQs u).elim [] (·.items)).map (·.frame) ++
    framesOf u (s.dispatching.toList ++ s.receiver.items)

/-- The frames of the requests that handlers have still to answer. -/
def pendingIn (u : UnitID) (hs : List Handler) : Multiset ℕ :=
  (hs.map fun x => (framesOf u x.requests : Multiset ℕ)).sum

/-- **The guard**, for the clients of the unit: answers leave the handlers in the order of the
requests, nothing is dropped, and no engine is given up. -/
structure Orderly (s : Pipeline) (a : PipelineAct) : Prop where
  inOrder : ∀ h x r rest, a = .emit h → s.handlers[h]? = some x → x.batch = r :: rest →
    r.requesterUnitId ∈ s.subscribeIds → ∀ y ∈ s.handlers, ∀ r' ∈ y.requests,
      r'.requesterUnitId = r.requesterUnitId → r.frame ≤ r'.frame
  answerKept : ∀ r q, a = .dispatch → s.dispatching = some r →
    r.requesterUnitId ∈ s.subscribeIds → s.resultQs r.requesterUnitId = some q → ¬ q.IsFull
  itemKept : ∀ f requested, a = .push → s.requesting = .request f [] requested →
    requested ≠ [] → ¬ s.inflightQ.IsFull
  patient : a ≠ .timeout ∧ a ≠ .skip

end Pipeline

theorem mem_pendingIn {u : UnitID} {hs : List Handler} {f : ℕ} :
    f ∈ pendingIn u hs ↔ ∃ x ∈ hs, ∃ r ∈ x.requests, r.requesterUnitId = u ∧ r.frame = f := by
  induction hs with
  | nil => simp [pendingIn]
  | cons x hs ih =>
    rw [pendingIn, List.map_cons, List.sum_cons, Multiset.mem_add, Multiset.mem_coe, mem_framesOf]
    change _ ∨ f ∈ pendingIn u hs ↔ _
    rw [ih]
    simp

/-- The requests of one handler among those of all, before and after it has changed. -/
theorem pendingIn_set {u : UnitID} {hs : List Handler} {h : ℕ} {x : Handler}
    (hx : hs[h]? = some x) : ∃ others : Multiset ℕ,
      pendingIn u hs = ↑(framesOf u x.requests) + others ∧
        ∀ y : Handler, pendingIn u (hs.set h y) = ↑(framesOf u y.requests) + others :=
  exists_sum_set _ hx

/-! ### The queues and the items -/

/-- The queues are as they should be: those of the clients exist, and those that carry requests and
answers to the dispatcher have no limit. -/
structure Wired (s : Pipeline) : Prop where
  subscribed : ∀ u ∈ s.subscribeIds, ∃ q, s.resultQs u = some q
  receiver : s.receiver.maxSize = 0
  inputs : ∀ x ∈ s.handlers, x.inputQ.maxSize = 0

/-- Items are for engines of the unit, and the one that is being put together is the newest. -/
structure Numbered (s : Pipeline) : Prop where
  engines : ∀ it ∈ s.inflight, it.engines ⊆ s.subscribeIds
  todo : s.requesting.todo ⊆ s.subscribeIds
  current : ∀ it ∈ s.inflight, it.frame < s.frameCount
  newest : ∀ it, s.requesting.item = some it → ∀ it' ∈ s.inflight, it'.frame ≤ it.frame

variable {s s' : Pipeline} {a : PipelineAct}

theorem Wired.set (hw : Wired s) {h : ℕ} {y : Handler} (hy : y.inputQ.maxSize = 0) :
    ∀ x ∈ s.handlers.set h y, x.inputQ.maxSize = 0 := by
  intro x hx
  rcases List.mem_or_eq_of_mem_set hx with hx | rfl
  · exact hw.inputs x hx
  · exact hy

theorem Wired.step (hw : Wired s) (hstep : PipelineStep s a s') : Wired s' := by
  have hinput : ∀ {h : ℕ} {x : Handler}, s.handlers[h]? = some x → x.inputQ.maxSize = 0 :=
    fun hx => hw.inputs _ (List.mem_of_getElem? hx)
  have hqueue : ∀ {v : UnitID} {q : SafeQueue StreamMetaData}, ∀ u ∈ s.subscribeIds,
      ∃ q', Function.update s.resultQs v (some q) u = some q' := by
    intro v q u hu
    rcases eq_or_ne u v with rfl | hne
    · exact ⟨q, Function.update_self ..⟩
    · rw [Function.update_of_ne hne]
      exact hw.subscribed u hu
  cases hstep with
  | enqueue hpos hx =>
    exact ⟨hw.subscribed, hw.receiver, hw.set (by simpa using hinput hx)⟩
  | take hx hr =>
    exact ⟨hw.subscribed, hw.receiver,
      hw.set ((SafeQueue.maxSize_of_dequeue hr).trans (hinput hx))⟩
  | emit hx hr =>
    have hq := hinput hx
    exact ⟨hw.subscribed, by simpa using hw.receiver, hw.set hq⟩
  | receive hpos hr =>
    exact ⟨hw.subscribed, (SafeQueue.maxSize_of_dequeue hr).trans hw.receiver, hw.inputs⟩
  | dispatch | respond => exact ⟨hqueue, hw.receiver, hw.inputs⟩
  | foreign hr hx => exact ⟨hw.subscribed, hw.receiver, hw.set (by simpa using hinput hx)⟩
  | link =>
    refine ⟨hw.subscribed, hw.receiver, fun x hx => ?_⟩
    rcases List.mem_append.mp hx with hx | hx
    · exact hw.inputs x hx
    · rw [List.mem_singleton.mp hx]
      rfl
  | _ => exact ⟨hw.subscribed, hw.receiver, hw.inputs⟩

/-- The items may become fewer, or have fewer engines. -/
theorem Numbered.mono (hn : Numbered s) (hids : s'.subscribeIds = s.subscribeIds)
    (hcount : s'.frameCount = s.frameCount) (htodo : s'.requesting.todo ⊆ s.requesting.todo)
    (hitem : ∀ it, s'.requesting.item = some it → s.requesting.item = some it)
    (hinflight : ∀ it ∈ s'.inflight, ∃ it' ∈ s.inflight, it.frame = it'.frame ∧
      it.engines ⊆ it'.engines) : Numbered s' := by
  refine ⟨fun it hit => ?_, hids ▸ List.Subset.trans htodo hn.todo, fun it hit => ?_,
    fun it hit it' hit' => ?_⟩
  · obtain ⟨it', hit', -, hsub⟩ := hinflight it hit
    rw [hids]
    exact List.Subset.trans hsub (hn.engines it' hit')
  · obtain ⟨it', hit', hframe, -⟩ := hinflight it hit
    rw [hframe, hcount]
    exact hn.current it' hit'
  · obtain ⟨it'', hit'', hframe, -⟩ := hinflight it' hit'
    rw [hframe]
    exact hn.newest it (hitem it hit) it'' hit''

/-- The same items, and less to do. -/
theorem Numbered.same (hn : Numbered s) (hids : s'.subscribeIds = s.subscribeIds)
    (hcount : s'.frameCount = s.frameCount) (htodo : s'.requesting.todo ⊆ s.requesting.todo)
    (hitem : s'.requesting.item = s.requesting.item) (hinflight : s'.inflight = s.inflight) :
    Numbered s' :=
  hn.mono hids hcount htodo (fun _ hit => hitem ▸ hit) fun it hit =>
    ⟨it, hinflight ▸ hit, rfl, List.Subset.refl _⟩

/-- The inference thread goes on with the same item. -/
theorem inflight_ask {n : ℕ} {r : Requesting} (hitem : r.item = s.requesting.item) :
    ({ s with roundRobinIdx := n, requesting := r } : Pipeline).inflight = s.inflight := by
  simp only [inflight, hitem]

theorem Numbered.ask (hn : Numbered s) {n : ℕ} {r : Requesting}
    (hitem : r.item = s.requesting.item) (htodo : r.todo ⊆ s.requesting.todo) :
    Numbered { s with roundRobinIdx := n, requesting := r } :=
  hn.same rfl rfl htodo hitem (inflight_ask hitem)

/-- The response thread has got further with its item, or is done with it. -/
theorem Numbered.advance (hn : Numbered s) {it : InflightItem} (hpos : s.responding = some it)
    {pos : Option InflightItem} (hids : s'.subscribeIds = s.subscribeIds)
    (hcount : s'.frameCount = s.frameCount) (hreq : s'.requesting = s.requesting)
    (hq : s'.inflightQ = s.inflightQ) (hresp : s'.responding = pos)
    (hless : ∀ it' ∈ pos, it'.frame = it.frame ∧ it'.engines ⊆ it.engines) : Numbered s' := by
  refine hn.mono hids hcount (by rw [hreq]; exact List.Subset.refl _) (by rw [hreq]; simp)
    fun it' hit' => ?_
  rw [inflight, hreq, hq, hresp, List.append_assoc] at hit'
  rcases List.mem_append.mp hit' with hit' | hit'
  · exact ⟨it, by simp [inflight, hpos], hless it' (Option.mem_toList.mp hit')⟩
  · refine ⟨it', ?_, rfl, List.Subset.refl _⟩
    rw [inflight, List.append_assoc]
    exact List.mem_append_right _ hit'

/-- The inference thread has begun an item, or has one more engine in the item it has. -/
theorem Numbered.request (hn : Numbered s) {it : InflightItem}
    (hids : s'.subscribeIds = s.subscribeIds) (hcount : s.frameCount ≤ s'.frameCount)
    (hresp : s'.responding = s.responding) (hq : s'.inflightQ = s.inflightQ)
    (hitem : s'.requesting.item = some it) (htodo : s'.requesting.todo ⊆ s.subscribeIds)
    (hengines : it.engines ⊆ s.subscribeIds) (hframe : it.frame < s'.frameCount)
    (hnewest : ∀ it' ∈ s.inflight, it'.frame ≤ it.frame) : Numbered s' := by
  have hinflight : ∀ it' ∈ s'.inflight, it' ∈ s.inflight ∨ it' = it := by
    intro it' hit'
    rw [inflight, hresp, hq, hitem] at hit'
    rcases List.mem_append.mp hit' with hit' | hit'
    · exact Or.inl (List.mem_append_left _ hit')
    · exact Or.inr (List.mem_singleton.mp hit')
  refine ⟨fun it' hit' => ?_, hids ▸ htodo, fun it' hit' => ?_, fun it₁ hit₁ it' hit' => ?_⟩
  · rw [hids]
    rcases hinflight it' hit' with hit' | rfl
    · exact hn.engines it' hit'
    · exact hengines
  · rcases hinflight it' hit' with hit' | rfl
    · exact (hn.current it' hit').trans_le hcount
    · exact hframe
  · obtain rfl : it = it₁ := Option.some.inj (hitem.symm.trans hit₁)
    rcases hinflight it' hit' with hit' | rfl
    · exact hnewest it' hit'
    · exact le_rfl

theorem Numbered.step (hn : Numbered s) (hstep : PipelineStep s a s') : Numbered s' := by
  cases hstep with
  | frame hpos hengines =>
    exact hn.request rfl (Nat.le_succ _) rfl rfl rfl hengines (List.nil_subset _)
      (Nat.lt_succ_self _) fun it' hit' => (hn.current it' hit').le
  | refused hact hpos | dropped hpos =>
    exact hn.ask (by rw [hpos]; rfl) (by rw [hpos]; exact List.subset_cons_self _ _)
  | select hpos | accepted hpos =>
    exact hn.ask (by rw [hpos]; rfl) (by rw [hpos]; exact List.Subset.refl _)
  | @enqueue f h u todo requested x hpos hx =>
    have htodo := hn.todo
    rw [hpos] at htodo
    have hold : ⟨f, requested⟩ ∈ s.inflight := by simp [inflight, hpos, Requesting.item]
    have hengines : requested ++ [u] ⊆ s.subscribeIds := by
      refine List.append_subset.mpr ⟨hn.engines _ hold, ?_⟩
      exact List.cons_subset.mpr ⟨htodo List.mem_cons_self, List.nil_subset _⟩
    exact hn.request rfl le_rfl rfl rfl rfl (fun v hv => htodo (List.mem_cons_of_mem u hv))
      hengines (hn.current ⟨f, requested⟩ hold) (hn.newest ⟨f, requested⟩ (by rw [hpos]; rfl))
  | pushNone hpos =>
    refine hn.mono rfl rfl (List.nil_subset _) nofun fun it hit => ⟨it, ?_, rfl, List.Subset.refl _⟩
    rw [inflight, hpos]
    exact List.mem_append_left _ (by simpa [inflight, Requesting.item] using hit)
  | @push f requested hpos hne =>
    refine hn.mono rfl rfl (List.nil_subset _) nofun fun it hit => ⟨it, ?_, rfl, List.Subset.refl _⟩
    simp only [inflight, Requesting.item, Option.toList_none, List.append_nil] at hit
    rw [inflight, hpos]
    rcases List.mem_append.mp hit with hit | hit
    · exact List.mem_append_left _ (List.mem_append_left _ hit)
    · rcases SafeQueue.mem_items_enqueue hit with hit | rfl
      · exact List.mem_append_left _ (List.mem_append_right _ hit)
      · exact List.mem_append_right _ (List.mem_singleton_self _)
  | item hpos hit =>
    refine hn.same rfl rfl (List.Subset.refl _) rfl ?_
    simp [inflight, hpos, SafeQueue.items_of_dequeue hit]
  | respond hpos | abandon hact hpos =>
    refine hn.advance hpos rfl rfl rfl rfl rfl fun it' hit' => ?_
    cases hit'
    exact ⟨rfl, List.subset_cons_self _ _⟩
  | finish hpos => exact hn.advance hpos rfl rfl rfl rfl rfl nofun
  | _ => exact hn.same rfl rfl (List.Subset.refl _) rfl rfl

/-! ### In step -/

/-- **The invariant of the pipeline.** -/
structure Paired (s : Pipeline) : Prop where
  wired : Wired s
  numbered : Numbered s
  inStep : ∀ u ∈ s.subscribeIds, InStep (s.awaited u) (s.delivered u) (pendingIn u s.handlers)
  merged : ∀ p ∈ s.merged, p.2.frame = p.1

/-- A handler has changed, but the client has the same requests there. -/
theorem pendingIn_set_of_eq {u : UnitID} {hs : List Handler} {h : ℕ} {x y : Handler}
    (hx : hs[h]? = some x) (heq : framesOf u y.requests = framesOf u x.requests) :
    pendingIn u (hs.set h y) = pendingIn u hs := by
  obtain ⟨others, hbefore, hafter⟩ := pendingIn_set hx
  rw [hafter, hbefore, heq]

/-- A handler is given a request of the client. -/
theorem pendingIn_enqueue {u : UnitID} {hs : List Handler} {h : ℕ} {x : Handler}
    {r : StreamMetaData} (hx : hs[h]? = some x) (hfull : ¬ x.inputQ.IsFull) :
    pendingIn u (hs.set h { x with inputQ := x.inputQ.enqueue r }) =
      if r.requesterUnitId = u then r.frame ::ₘ pendingIn u hs else pendingIn u hs := by
  have hrequests : framesOf u ({ x with inputQ := x.inputQ.enqueue r } : Handler).requests =
      framesOf u x.requests ++ framesOf u [r] := by
    simp [Handler.requests, SafeQueue.items_enqueue hfull]
  split_ifs with hr
  · obtain ⟨others, hbefore, hafter⟩ := @pendingIn_set u hs h x hx
    rw [hafter, hbefore, hrequests, framesOf_cons_self hr, framesOf_nil, ← Multiset.coe_add,
      Multiset.coe_singleton, add_right_comm, add_comm, Multiset.singleton_add]
  · refine pendingIn_set_of_eq hx ?_
    rw [hrequests, framesOf_cons_ne hr, framesOf_nil, List.append_nil]

/-- A handler answers a request of the client. -/
theorem pendingIn_emit {u : UnitID} {hs : List Handler} {h : ℕ} {x : Handler}
    {r : StreamMetaData} {rest : List StreamMetaData} (hx : hs[h]? = some x)
    (hr : x.batch = r :: rest) (hu : r.requesterUnitId = u) :
    pendingIn u hs = r.frame ::ₘ pendingIn u (hs.set h { x with batch := rest }) := by
  obtain ⟨others, hbefore, hafter⟩ := @pendingIn_set u hs h x hx
  rw [hafter, hbefore]
  simp only [Handler.requests, hr, List.cons_append, framesOf_cons_self hu]
  rw [← Multiset.cons_coe, Multiset.cons_add]

variable {u : UnitID}

/-- A request is accepted. -/
theorem Paired.enqueue (h : Paired s) {f i : ℕ} {v : UnitID} {todo requested : List UnitID}
    {x : Handler} (hpos : s.requesting = .enqueue f v todo requested i)
    (hx : s.handlers[i]? = some x) (hu : u ∈ s.subscribeIds) :
    InStep
      (({ s with requesting := .request f todo (requested ++ [v]) } : Pipeline).awaited u)
      (s.delivered u)
      (pendingIn u (s.handlers.set i { x with inputQ := x.inputQ.enqueue ⟨v, f⟩ })) := by
  have hfull : ¬ x.inputQ.IsFull :=
    SafeQueue.not_isFull (h.wired.inputs x (List.mem_of_getElem? hx))
  have hawaited : ({ s with requesting := .request f todo (requested ++ [v]) } : Pipeline).awaited u
      = s.awaited u ++ if v = u then [f] else [] := by
    simp [awaited, inflight, hpos, Requesting.item, InflightItem.slots_append]
  rw [hawaited, pendingIn_enqueue hx hfull]
  split_ifs with hv
  · refine (h.inStep u hu).request fun a ha => ?_
    obtain ⟨it, hit, ha⟩ := List.mem_flatMap.mp ha
    rw [InflightItem.eq_of_mem_slots ha]
    exact h.numbered.newest ⟨f, requested⟩ (by rw [hpos]; rfl) it hit
  · rw [List.append_nil]
    exact h.inStep u hu

/-- An answer leaves a handler. -/
theorem Paired.emit (h : Paired s) {i : ℕ} {x : Handler} {r : StreamMetaData}
    {rest : List StreamMetaData} (hok : Orderly s (.emit i)) (hx : s.handlers[i]? = some x)
    (hr : x.batch = r :: rest) (hu : u ∈ s.subscribeIds) :
    InStep (s.awaited u) (({ s with receiver := s.receiver.enqueue r } : Pipeline).delivered u)
      (pendingIn u (s.handlers.set i { x with batch := rest })) := by
  have hitems := SafeQueue.items_enqueue (SafeQueue.not_isFull h.wired.receiver) r
  by_cases hru : r.requesterUnitId = u
  · have hdelivered : ({ s with receiver := s.receiver.enqueue r } : Pipeline).delivered u =
        s.delivered u ++ [r.frame] := by
      simp [delivered, hitems, framesOf_cons_self hru]
    have hpending := pendingIn_emit hx hr hru
    have hin := h.inStep u hu
    rw [hpending] at hin
    rw [hdelivered]
    refine hin.reply fun p hp => ?_
    -- the guard: no request of this client is older
    have hp' : p ∈ pendingIn u s.handlers := by
      rw [hpending]
      exact Multiset.mem_cons_of_mem hp
    obtain ⟨y, hy, r', hr', hreq, rfl⟩ := mem_pendingIn.mp hp'
    exact hok.inOrder i x r rest rfl hx hr (hru ▸ hu) y hy r' hr' (hreq.trans hru.symm)
  · have hdelivered : ({ s with receiver := s.receiver.enqueue r } : Pipeline).delivered u =
        s.delivered u := by
      simp [delivered, hitems, framesOf_cons_ne hru]
    rw [hdelivered, pendingIn_set_of_eq hx]
    · exact h.inStep u hu
    · simp only [Handler.requests, hr, List.cons_append, framesOf_cons_ne hru]

/-- An answer that is sorted into its queue stays where it is in the order. -/
theorem delivered_dispatch {r : StreamMetaData} {q : SafeQueue StreamMetaData}
    (hpos : s.dispatching = some r) (hq : s.resultQs r.requesterUnitId = some q)
    (hfull : r.requesterUnitId = u → ¬ q.IsFull) :
    ({ s with
      resultQs := Function.update s.resultQs r.requesterUnitId (some (q.enqueue r))
      dispatching := none } : Pipeline).delivered u = s.delivered u := by
  by_cases hru : r.requesterUnitId = u
  · subst hru
    simp [delivered, hpos, hq, SafeQueue.items_enqueue (hfull rfl), framesOf_cons_self]
  · simp [delivered, hpos, framesOf_cons_ne hru, Function.update_of_ne (Ne.symm hru)]

/-- **The answer that is merged belongs to the item.** -/
theorem Paired.respond (h : Paired s) {f : ℕ} {v : UnitID} {us : List UnitID}
    {r : StreamMetaData} {q q' : SafeQueue StreamMetaData}
    (hpos : s.responding = some ⟨f, v :: us⟩) (hq : s.resultQs v = some q)
    (hr : q.dequeue = some (r, q')) :
    r.frame = f ∧ ∀ u ∈ s.subscribeIds, InStep
      (({ s with responding := some ⟨f, us⟩ } : Pipeline).awaited u)
      (({ s with resultQs := Function.update s.resultQs v (some q') } : Pipeline).delivered u)
      (pendingIn u s.handlers) := by
  have hawaited : ∀ u, s.awaited u = (if v = u then [f] else []) ++
      ({ s with responding := some ⟨f, us⟩ } : Pipeline).awaited u := by
    intro u
    by_cases hvu : v = u <;> simp [awaited, inflight, hpos, InflightItem.slots_cons, hvu]
  have hdelivered : ∀ u, s.delivered u = (if v = u then [r.frame] else []) ++
      ({ s with resultQs := Function.update s.resultQs v (some q') } : Pipeline).delivered u := by
    intro u
    by_cases hvu : v = u
    · subst hvu
      simp [delivered, hq, SafeQueue.items_of_dequeue hr]
    · simp [delivered, hvu, Function.update_of_ne (Ne.symm hvu)]
  have hv : v ∈ s.subscribeIds := by
    refine h.numbered.engines ⟨f, v :: us⟩ ?_ List.mem_cons_self
    simp [inflight, hpos]
  have hconsume := h.inStep v hv
  rw [hawaited, hdelivered, if_pos rfl, if_pos rfl] at hconsume
  refine ⟨hconsume.consume.1, fun u hu => ?_⟩
  by_cases hvu : v = u
  · exact hvu ▸ hconsume.consume.2
  · have hin := h.inStep u hu
    rw [hawaited, hdelivered, if_neg hvu, if_neg hvu] at hin
    exact hin

/-- A step that moves nothing in or out of the three collections. -/
theorem Paired.of_eq (h : Paired s) (hw : Wired s') (hn : Numbered s')
    (hids : s'.subscribeIds = s.subscribeIds) (hmerged : s'.merged = s.merged)
    (hawaited : ∀ u, s'.awaited u = s.awaited u)
    (hdelivered : ∀ u ∈ s.subscribeIds, s'.delivered u = s.delivered u)
    (hpending : ∀ u ∈ s.subscribeIds, pendingIn u s'.handlers = pendingIn u s.handlers) :
    Paired s' := by
  refine ⟨hw, hn, fun u hu => ?_, hmerged ▸ h.merged⟩
  rw [hids] at hu
  rw [hawaited u, hdelivered u hu, hpending u hu]
  exact h.inStep u hu

theorem Paired.step (h : Paired s) (hok : Orderly s a) (hrun : s.step a = some s') :
    Paired s' := by
  have hstep := pipelineStep_sound hrun
  have hw := h.wired.step hstep
  have hn := h.numbered.step hstep
  cases hstep with
  | frame hpos | pushNone hpos =>
    refine h.of_eq hw hn rfl rfl (fun u => ?_) (fun _ _ => rfl) fun _ _ => rfl
    simp [awaited, inflight, hpos, Requesting.item, InflightItem.slots_nil]
  | refused hact hpos | dropped hpos | select hpos | accepted hpos =>
    refine h.of_eq hw hn rfl rfl (fun u => ?_) (fun _ _ => rfl) fun _ _ => rfl
    simp only [awaited, inflight, hpos, Requesting.item]
  | enqueue hpos hx => exact ⟨hw, hn, fun u hu => h.enqueue hpos hx hu, h.merged⟩
  | push hpos hne =>
    refine h.of_eq hw hn rfl rfl (fun u => ?_) (fun _ _ => rfl) fun _ _ => rfl
    have hitems := SafeQueue.items_enqueue (hok.itemKept _ _ rfl hpos hne)
    simp [awaited, inflight, hpos, Requesting.item, hitems]
  | take hx hr =>
    refine h.of_eq hw hn rfl rfl (fun _ => rfl) (fun _ _ => rfl) fun u _ => ?_
    exact pendingIn_set_of_eq hx (by simp [Handler.requests, SafeQueue.items_of_dequeue hr])
  | emit hx hr => exact ⟨hw, hn, fun u hu => h.emit hok hx hr hu, h.merged⟩
  | receive hpos hr =>
    refine h.of_eq hw hn rfl rfl (fun _ => rfl) (fun u _ => ?_) fun _ _ => rfl
    simp [delivered, hpos, SafeQueue.items_of_dequeue hr]
  | dispatch hpos hq =>
    refine h.of_eq hw hn rfl rfl (fun _ => rfl) (fun u hu => ?_) fun _ _ => rfl
    exact delivered_dispatch hpos hq fun hru => hok.answerKept _ _ rfl hpos (hru ▸ hu) hq
  | @discard r hpos hq =>
    refine h.of_eq hw hn rfl rfl (fun _ => rfl) (fun u hu => ?_) fun _ _ => rfl
    -- the queue of a client of the unit exists, so that the answer is for another unit
    have hru : r.requesterUnitId ≠ u := by
      rintro rfl
      obtain ⟨q, hq'⟩ := h.wired.subscribed _ hu
      cases hq.symm.trans hq'
    simp [delivered, hpos, framesOf_cons_ne hru]
  | item hpos hit =>
    refine h.of_eq hw hn rfl rfl (fun u => ?_) (fun _ _ => rfl) fun _ _ => rfl
    simp [awaited, inflight, hpos, SafeQueue.items_of_dequeue hit]
  | respond hpos hq hr =>
    obtain ⟨hframe, hin⟩ := h.respond hpos hq hr
    refine ⟨hw, hn, hin, fun p hp => ?_⟩
    rcases List.mem_cons.mp hp with rfl | hp
    · exact hframe
    · exact h.merged p hp
  | abandon hact hpos =>
    rcases hact with rfl | rfl
    · exact absurd rfl hok.patient.1
    · exact absurd rfl hok.patient.2
  | finish hpos =>
    refine h.of_eq hw hn rfl rfl (fun u => ?_) (fun _ _ => rfl) fun _ _ => rfl
    simp [awaited, inflight, hpos, InflightItem.slots_nil]
  | @foreign i x r hr hx =>
    refine h.of_eq hw hn rfl rfl (fun _ => rfl) (fun _ _ => rfl) fun u hu => ?_
    have hfull := SafeQueue.not_isFull (h.wired.inputs x (List.mem_of_getElem? hx))
    have hru : r.requesterUnitId ≠ u := by
      rintro rfl
      exact hr hu
    rw [pendingIn_enqueue hx hfull, if_neg hru]
  | otherSelect => exact h.of_eq hw hn rfl rfl (fun _ => rfl) (fun _ _ => rfl) fun _ _ => rfl
  | link =>
    refine h.of_eq hw hn rfl rfl (fun _ => rfl) (fun _ _ => rfl) fun u _ => ?_
    simp [pendingIn, Handler.requests, SafeQueue.new]

/-! ### Runs -/

/-- A unit that has subscribed and has not asked for anything yet. -/
structure AtStart (s : Pipeline) : Prop where
  wired : Wired s
  requesting : s.requesting = .idle
  responding : s.responding = none
  inflightQ : s.inflightQ.items = []
  merged : s.merged = []
  /-- No request or answer of the unit is under way. -/
  quiet : ∀ u ∈ s.subscribeIds, s.delivered u = [] ∧ pendingIn u s.handlers = 0

theorem AtStart.paired (h : AtStart s) : Paired s := by
  have hinflight : s.inflight = [] := by
    simp [inflight, h.requesting, h.responding, h.inflightQ, Requesting.item]
  refine ⟨h.wired, ⟨?_, ?_, ?_, ?_⟩, fun u hu => ?_, ?_⟩
  · simp [hinflight]
  · simp [h.requesting, Requesting.todo]
  · simp [hinflight]
  · simp [hinflight]
  · obtain ⟨hdelivered, hpending⟩ := h.quiet u hu
    rw [awaited, hinflight, hdelivered, hpending]
    exact InStep.nil
  · simp [h.merged]

/-- **Every answer is merged into the item of its own frame.** In every run in which the answers to
a client leave the handlers in the order of the requests, neither answers nor items are dropped,
and no engine is given up, whatever the response thread merges into the item with correlation
identifier `c` has the correlation identifier `c`. -/
theorem merged_correlationId (s₀ s : Pipeline) (as : List PipelineAct) (hstart : AtStart s₀)
    (hok : Guarded Pipeline.step Orderly s₀ as) (hrun : runFrom Pipeline.step s₀ as = some s) :
    ∀ p ∈ s.merged, correlationId p.2.frame = correlationId p.1 := by
  have h : Paired s :=
    hok.invariant (fun _ _ _ hinv hguard hstep => hinv.step hguard hstep) hstart.paired hrun
  intro p hp
  rw [h.merged p hp]

/-- Most steps meet the guard. -/
theorem Pipeline.Orderly.of_ne (hemit : ∀ h, a ≠ .emit h) (hdispatch : a ≠ .dispatch)
    (hpush : a ≠ .push) (htimeout : a ≠ .timeout) (hskip : a ≠ .skip) : Orderly s a :=
  ⟨fun h _ _ _ ha => absurd ha (hemit h), fun _ _ ha => absurd ha hdispatch,
    fun _ _ ha => absurd ha hpush, ⟨htimeout, hskip⟩⟩

/-- A unit with one engine, which two handlers serve. -/
def twoHandlers : Pipeline where
  subscribeIds := [10]
  frameCount := 0
  roundRobinIdx := 0
  handlers := [⟨.new 0, []⟩, ⟨.new 0, []⟩]
  receiver := .new 0
  dispatching := none
  resultQs u := if u = 10 then some (.new 10) else none
  inflightQ := .new 10
  requesting := .idle
  responding := none
  merged := []

theorem atStart_twoHandlers : AtStart twoHandlers where
  wired := by
    refine ⟨fun u hu => ?_, rfl, fun x hx => ?_⟩
    · rw [List.mem_singleton.mp hu]
      exact ⟨_, rfl⟩
    · simp only [twoHandlers, List.mem_cons, List.not_mem_nil, or_false, or_self] at hx
      rw [hx]
      rfl
  requesting := rfl
  responding := rfl
  inflightQ := rfl
  merged := rfl
  quiet u hu := by
    rw [List.mem_singleton.mp hu]
    exact ⟨rfl, rfl⟩

/-- Two frames, the first of which is answered by the handler `h`. -/
def twoFrames (h : ℕ) : List PipelineAct :=
  [.frame [10], .select, .check, .enqueue, .push, .frame [10], .select, .check, .enqueue, .push,
    .take h, .emit h, .receive, .dispatch, .item, .respond]

/-- The handler that was asked first answers first. -/
theorem merged_correlationId_twoFrames :
    ∃ s, runFrom Pipeline.step twoHandlers (twoFrames 0) = some s ∧ s.merged = [(0, ⟨10, 0⟩)] ∧
      ∀ p ∈ s.merged, correlationId p.2.frame = correlationId p.1 := by
  refine ⟨_, rfl, rfl,
    merged_correlationId twoHandlers _ (twoFrames 0) atStart_twoHandlers ?_ rfl⟩
  iterate 2
    iterate 4
      refine ⟨.of_ne nofun nofun nofun nofun nofun, fun s' hs => ?_⟩
      cases hs
    refine ⟨⟨nofun, nofun, fun _ _ _ _ _ => by decide, nofun, nofun⟩, fun s' hs => ?_⟩
    cases hs
  refine ⟨.of_ne nofun nofun nofun nofun nofun, fun s' hs => ?_⟩
  cases hs
  refine ⟨⟨fun h x r rest ha hx hr _ y hy r' hr' _ => ?_, nofun, nofun, nofun, nofun⟩,
    fun s' hs => ?_⟩
  · cases ha
    cases hx
    cases hr
    exact Nat.zero_le _
  cases hs
  refine ⟨.of_ne nofun nofun nofun nofun nofun, fun s' hs => ?_⟩
  cases hs
  refine ⟨⟨nofun, fun r q _ hr _ hq => ?_, nofun, nofun, nofun⟩, fun s' hs => ?_⟩
  · cases hr
    cases hq
    decide
  cases hs
  iterate 2
    refine ⟨.of_ne nofun nofun nofun nofun nofun, fun s' hs => ?_⟩
    cases hs
  trivial

/-- When the other handler overtakes it, the answer for the second frame is merged into the item
of the first. -/
theorem not_merged_correlationId :
    ¬ ∀ (s₀ s : Pipeline) (as : List PipelineAct), AtStart s₀ →
        runFrom Pipeline.step s₀ as = some s →
          ∀ p ∈ s.merged, correlationId p.2.frame = correlationId p.1 := by
  intro h
  have hpaired := h twoHandlers _ (twoFrames 1) atStart_twoHandlers rfl (0, ⟨10, 1⟩)
    List.mem_cons_self
  revert hpaired
  decide

end DetectBase
