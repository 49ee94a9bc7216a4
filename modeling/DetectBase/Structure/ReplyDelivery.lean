import DetectBase.Structure.ReplyDispatcher
import Mathlib.Data.Set.Function

/-!
# Each reply is delivered once

In a run of `DetectBase.ReplyDispatcher` in which no call comes too late, each reply is returned by
one call at most, and a reply that is neither overwritten nor taken is there for the next call
(`DetectBase.ReplyDispatcher.deliversOnce`). The second part is about two moments of a run, and is
carried from the one to the other by `DetectBase.ReplyDispatcher.Awaits`: the call that was started
after a reply stands before it as long as nobody else has taken it or written over it.
-/

namespace DetectBase

namespace ReplyDispatcher

variable {U T : Type} [DecidableEq U] (husk : T → T) {s s' : ReplyDispatcher U T}

/-! ### A reply that is there when a call starts -/

/-- **The call has the reply before it**: as long as the reply is kept, the call waits at its
entry. -/
def Awaits (i : ℕ) (u : U) (v : T) (w : ℕ) (s : ReplyDispatcher U T) : Prop :=
  ∃ f, s.calls i = some (.set u v f) ∧
    (f = .kept → ∃ e, s.calls w = some (.waiting u e) ∧ s.table u = some e)

/-- The first section leaves what is in the table. -/
theorem tryEmplace_frame {u : U} {a e : ℕ} (hs : s.tryEmplace u a = some (e, s')) :
    s'.calls = s.calls ∧ s'.table u = some e ∧
      ∀ u' e', s.table u' = some e' → s'.table u' = some e' := by
  rw [ReplyDispatcher.tryEmplace] at hs
  split at hs
  · next e' htable =>
    cases hs
    exact ⟨rfl, htable, fun _ _ h => h⟩
  · next htable =>
    split at hs
    · cases hs
    · cases hs
      refine ⟨rfl, Function.update_self .., fun u' e' hu' => ?_⟩
      dsimp only
      rw [Function.update_of_ne, hu']
      rintro rfl
      rw [htable] at hu'
      cases hu'

omit [DecidableEq U] in
/-- A new call is none of the others. -/
theorem Awaits.setCall {i w k : ℕ} {u : U} {v : T} {c : ReplyCall U T} (h : Awaits i u v w s)
    (hnew : s.calls k = none) (hcalls : s'.calls = s.calls)
    (htable : ∀ u' e', s.table u' = some e' → s'.table u' = some e') :
    Awaits i u v w { s' with calls := Function.update s'.calls k (some c) } := by
  obtain ⟨f, hi, hkept⟩ := h
  have hother : ∀ {j c'}, s.calls j = some c' →
      Function.update s'.calls k (some c) j = some c' := by
    rw [hcalls]
    exact fun hj => update_eq_some hj (by simp [hnew])
  refine ⟨f, hother hi, fun hf => ?_⟩
  obtain ⟨e, hw, he⟩ := hkept hf
  exact ⟨e, hother hw, htable u e he⟩

omit [DecidableEq U] in
/-- **The reply meets its fate, or stays where the call waits for it.** A call that waits at the
entry goes on only with the reply. -/
theorem Awaits.settle {i w k e : ℕ} {u u' : U} {v : T} {c c' : ReplyCall U T} {fate : Fate}
    {data : ℕ → Slot T} {calls : ℕ → Option (ReplyCall U T)} (h : Awaits i u v w s) (hinv : s.Inv)
    (hk : s.calls k = some c) (hset : ∀ u v f, c ≠ .set u v f)
    (hentry : ∀ e', c = .waiting u e' → e' = e) (hc : s.Settles u' e fate calls)
    (hfate : fate ≠ .kept) :
    Awaits i u v w
      { s with data := data, calls := Function.update calls k (some c') } := by
  obtain ⟨f, hi, hkept⟩ := h
  have hki : i ≠ k := by
    rintro rfl
    rw [hi] at hk
    cases hk
    exact hset u v f rfl
  obtain ⟨hsame, hother⟩ | ⟨v', -, hi', hi''⟩ := hc i
  · refine ⟨f, ?_, ?_⟩
    · dsimp only
      rw [Function.update_of_ne hki, hsame, hi]
    · rintro rfl
      obtain ⟨e', hw, htable⟩ := hkept rfl
      have hdata := hinv.kept i u v hi
      rw [htable, Option.map_some, Option.some.injEq] at hdata
      have hwk : w ≠ k := by
        rintro rfl
        rw [hw] at hk
        cases hk
        rw [hentry e' rfl] at hdata
        exact hother v hdata
      refine ⟨e', ?_, htable⟩
      dsimp only
      rw [Function.update_of_ne hwk]
      exact hc.ne_set hw (by simp)
  · rw [hi] at hi'
    cases hi'
    refine ⟨fate, ?_, fun hf => absurd hf hfate⟩
    dsimp only
    rw [Function.update_of_ne hki, hi'']

/-- A call erases the uuid of a reply that has been taken. -/
theorem Awaits.erase {i w k : ℕ} {u u' : U} {v v' : T} (h : Awaits i u v w s) (hinv : s.Inv)
    (hk : s.calls k = some (.taken u' v')) :
    Awaits i u v w
      { s with
        table := Function.update s.table u' none
        calls := Function.update s.calls k (some (.returned u' (some v'))) } := by
  obtain ⟨f, hi, hkept⟩ := h
  refine ⟨f, update_eq_some hi (by simp [hk]), ?_⟩
  rintro rfl
  obtain ⟨e, hw, htable⟩ := hkept rfl
  refine ⟨e, update_eq_some hw (by simp [hk]), ?_⟩
  dsimp only
  rw [Function.update_of_ne, htable]
  rintro rfl
  have hdata := hinv.kept i u v hi
  have hmoved := hinv.erasing k u v' hk
  rw [htable, Option.map_some, Option.some.injEq] at hdata
  rw [htable, Option.any_some, hdata] at hmoved
  cases hmoved

/-- **A reply does not get past a call that was started after it.** -/
theorem Awaits.step {i w : ℕ} {u : U} {v : T} {a : ReplyAct U T} (hinv : s.Inv)
    (h : Awaits i u v w s) (hok : s.NotTooLate a) (hs : s.step husk a = some s') :
    Awaits i u v w s' := by
  cases a with
  | setReply k u' v' address =>
    rw [ReplyDispatcher.step] at hs
    split at hs
    · next e s₁ hnew htry =>
      cases hs
      obtain ⟨hcalls, -, htable⟩ := tryEmplace_frame htry
      exact h.setCall hnew hcalls htable
    · cases hs
  | waitAndGet k u' address =>
    rw [ReplyDispatcher.step] at hs
    split at hs
    · next e s₁ hnew htry =>
      cases hs
      obtain ⟨hcalls, -, htable⟩ := tryEmplace_frame htry
      exact h.setCall hnew hcalls htable
    · cases hs
  | store k =>
    rw [ReplyDispatcher.step] at hs
    split at hs
    · next u' v' e hk =>
      cases hs
      have hfresh := hok u' v' e hk
      rw [storeReply]
      cases hdata : s.data e with
      | empty =>
        have hc := settles_of_empty (u := u') hdata .overwritten
        exact h.settle hinv hk (by simp) (by simp) hc (by simp)
      | reply j x =>
        have hc := hinv.settles_setFate (hinv.setting k u' v' e hk) hdata .overwritten
        exact h.settle hinv hk (by simp) (by simp) hc (by simp)
      | movedFrom x =>
        rw [hdata] at hfresh
        cases hfresh
    · cases hs
  | read k =>
    rw [ReplyDispatcher.step] at hs
    split at hs
    · next u' e hk =>
      cases hs
      have hfresh := hok u' e hk
      have hentry : ∀ e', ReplyCall.waiting (T := T) u' e = .waiting u e' → e' = e := by
        rintro e' ⟨⟩
        rfl
      rw [readReply]
      cases hdata : s.data e with
      | empty =>
        have hc := settles_of_empty (u := u') hdata .overwritten
        exact h.settle hinv hk (by simp) hentry hc (by simp)
      | reply j x =>
        have hc := hinv.settles_setFate (hinv.waiting k u' e hk) hdata (.takenBy k)
        exact h.settle hinv hk (by simp) hentry hc (by simp)
      | movedFrom x =>
        rw [hdata] at hfresh
        cases hfresh
    · cases hs
  | erase k =>
    rw [ReplyDispatcher.step] at hs
    split at hs
    · next u' v' hk =>
      cases hs
      exact h.erase hinv hk
    · cases hs

/-- A call that is started after a reply has it before it. -/
theorem awaits_of_set {i w a : ℕ} {u : U} {v : T} {f : Fate}
    (hi : s.calls i = some (.set u v f)) (hs : s.step husk (.waitAndGet w u a) = some s') :
    Awaits i u v w s' := by
  rw [ReplyDispatcher.step] at hs
  split at hs
  · next e s₁ hnew htry =>
    cases hs
    obtain ⟨hcalls, htable, -⟩ := tryEmplace_frame htry
    have hiw : i ≠ w := by
      rintro rfl
      rw [hnew] at hi
      cases hi
    refine ⟨f, ?_, fun _ => ⟨e, Function.update_self .., htable⟩⟩
    dsimp only
    rw [Function.update_of_ne hiw, hcalls, hi]
  · cases hs

/-! ### Whole runs -/

/-- **Each reply is delivered once**, in a run that has led to the given state. -/
structure DeliversOnce (as : List (ReplyAct U T)) (s : ReplyDispatcher U T) : Prop where
  /-- What is returned was passed to `set_reply` under the uuid, and no two calls return the reply
  of the same call. -/
  returned : ∃ replyOf : ℕ → ℕ,
    (∀ w u v, s.calls w = some (.returned u (some v)) →
      ∃ f, s.calls (replyOf w) = some (.set u v f)) ∧
    Set.InjOn replyOf {w | ∃ u v, s.calls w = some (.returned u (some v))}
  /-- A reply that was written before a call of `wait_and_get` was started has been overwritten or
  taken when that call has returned, and the call that took it returns it. -/
  delivered : ∀ pre w u address post s₁ i v f r, as = pre ++ .waitAndGet w u address :: post →
    runFrom (step husk) new pre = some s₁ → s₁.calls i = some (.set u v f) →
    s.calls w = some (.returned u r) →
    s.calls i = some (.set u v .overwritten) ∨
      ∃ w', s.calls i = some (.set u v (.takenBy w')) ∧
        (s.calls w' = some (.taken u v) ∨ s.calls w' = some (.returned u (some v)))

omit [DecidableEq U] in
/-- Two calls do not return the same reply. -/
theorem Inv.returned (h : s.Inv) : ∃ replyOf : ℕ → ℕ,
    (∀ w u v, s.calls w = some (.returned u (some v)) →
      ∃ f, s.calls (replyOf w) = some (.set u v f)) ∧
    Set.InjOn replyOf {w | ∃ u v, s.calls w = some (.returned u (some v))} := by
  have htaken : ∀ w, ∃ i, ∀ u v, s.calls w = some (.returned u (some v)) →
      s.calls i = some (.set u v (.takenBy w)) := by
    intro w
    by_cases hw : ∃ u v, s.calls w = some (.returned u (some v))
    · obtain ⟨u, v, hw⟩ := hw
      obtain ⟨i, hi⟩ := h.origin w u v (.inr hw)
      refine ⟨i, fun u' v' hw' => ?_⟩
      rw [hw] at hw'
      cases hw'
      exact hi
    · exact ⟨0, fun u v hw' => absurd ⟨u, v, hw'⟩ hw⟩
  choose replyOf hreply using htaken
  refine ⟨replyOf, fun w u v hw => ⟨.takenBy w, hreply w u v hw⟩, ?_⟩
  rintro w ⟨u, v, hw⟩ w' ⟨u', v', hw'⟩ heq
  -- the reply has been taken by the one and by the other
  have hi := hreply w u v hw
  rw [heq, hreply w' u' v' hw'] at hi
  cases hi
  rfl

/-- **Each reply is delivered once**, in every run in which no call comes too late. -/
theorem deliversOnce {as : List (ReplyAct U T)} {s : ReplyDispatcher U T}
    (hok : Guarded (step husk) NotTooLate new as) (hrun : runFrom (step husk) new as = some s) :
    DeliversOnce husk as s := by
  have hinv : s.Inv := hok.invariant (fun _ _ _ h => inv_step husk h) inv_new hrun
  refine ⟨hinv.returned, ?_⟩
  rintro pre w u address post s₁ i v f r rfl hpre hi hw
  obtain ⟨hokpre, hokrest⟩ := hok.append
  obtain ⟨s₁', hpre', hrest⟩ := runFrom_append.mp hrun
  rw [hpre, Option.some.injEq] at hpre'
  subst hpre'
  obtain ⟨s₂, hstart, hpost⟩ := runFrom_cons.mp hrest
  obtain ⟨hokstart, hokpost⟩ := hokrest s₁ hpre
  have hinv₁ : s₁.Inv := hokpre.invariant (fun _ _ _ h => inv_step husk h) inv_new hpre
  -- from its start on, the call has the reply before it
  have hawaits : s.Inv ∧ Awaits i u v w s := by
    refine Guarded.invariant (I := fun s => s.Inv ∧ Awaits i u v w s) ?_ (hokpost s₂ hstart) ?_
      hpost
    · rintro s a s' ⟨hinv, hawaits⟩ hok hs
      exact ⟨inv_step husk hinv hok hs, hawaits.step husk hinv hok hs⟩
    · exact ⟨inv_step husk hinv₁ hokstart hstart, awaits_of_set husk hi hstart⟩
  obtain ⟨fate, hi', hkept⟩ := hawaits.2
  cases fate with
  | kept =>
    obtain ⟨e, hwait, -⟩ := hkept rfl
    rw [hw] at hwait
    cases hwait
  | overwritten => exact .inl hi'
  | takenBy w' => exact .inr ⟨w', hi', hinv.taker i u v w' hi'⟩

/-- Two replies under two uuids are taken by two calls in turn, and a third one, under the first
uuid again, by a call that is started when that of the first one has returned. -/
def threeReplies : List (ReplyAct ℕ String) :=
  [.setReply 0 7 "first" 0, .setReply 1 8 "second" 1, .store 1, .store 0, .waitAndGet 2 7 2,
    .waitAndGet 3 8 2, .read 2, .read 3, .erase 3, .erase 2, .setReply 4 7 "third" 2, .store 4,
    .waitAndGet 5 7 3, .read 5, .erase 5]

theorem deliversOnce_threeReplies : ∃ s,
    runFrom (step fun _ => "") (new : ReplyDispatcher ℕ String) threeReplies = some s ∧
    s.calls 2 = some (.returned 7 (some "first")) ∧
    s.calls 3 = some (.returned 8 (some "second")) ∧
    s.calls 5 = some (.returned 7 (some "third")) ∧
    DeliversOnce (fun _ => "") threeReplies s :=
  ⟨_, rfl, rfl, rfl, rfl, deliversOnce _ (by decide +kernel) rfl⟩

/-- **A second call gets what the first has left.** Two calls wait at the entry when the reply is
written. The second returns a value that was never passed to `set_reply`. -/
theorem not_deliversOnce : ¬ ∀ (as : List (ReplyAct ℕ String)) (s : ReplyDispatcher ℕ String),
    runFrom (step fun _ => "") new as = some s → DeliversOnce (fun _ => "") as s := by
  intro h
  obtain ⟨⟨replyOf, hpassed, -⟩, -⟩ := h
    [.waitAndGet 1 7 0, .waitAndGet 2 7 0, .setReply 0 7 "reply" 0, .store 0, .read 1, .read 2,
      .erase 1, .erase 2] _ rfl
  obtain ⟨f, hf⟩ := hpassed 2 7 "" rfl
  -- only the call 0 has passed a value
  generalize replyOf 2 = i at hf
  obtain _ | _ | _ | i := i
  · injection hf with hf
    injection hf with _ hvalue
    exact absurd hvalue (by decide)
  · cases hf
  · cases hf
  · cases hf

end ReplyDispatcher

end DetectBase
