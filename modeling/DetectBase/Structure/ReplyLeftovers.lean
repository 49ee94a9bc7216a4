import DetectBase.Structure.ReplyDispatcher

/-!
# What stays in the table of replies

`wait_and_get` takes its uuid out of the table only when it has got a reply. A call that has timed
out leaves its entry there, although the comment on that section says otherwise, and nothing but a
later call for the same uuid will take it out. The dispatchers of the gRPC server have neither
`remove` nor `remove_expired` called on them, and the uuids are chosen by the clients.

An entry without a reply is *attended* when a call in progress is at it, or is to erase its uuid
(`DetectBase.ReplyDispatcher.Attended`). When no wait gives up an entry that is not attended by
another call (`DetectBase.ReplyDispatcher.NotAbandoned`), every entry without a reply is attended
between the steps, so that none is left when no call is in progress
(`DetectBase.ReplyDispatcher.nothingLeft`). An entry that was given up stays for good
(`DetectBase.ReplyDispatcher.abandoned_stays`).
-/

namespace DetectBase

/-- The uuid and the entry that a call has come to. -/
def ReplyCall.entry? {U T : Type} : ReplyCall U T → Option (U × ℕ)
  | .setting u _ e => some (u, e)
  | .waiting u e => some (u, e)
  | _ => none

/-- The call has returned. -/
def ReplyCall.IsOver {U T : Type} : ReplyCall U T → Prop
  | .set _ _ _ => True
  | .returned _ _ => True
  | _ => False

namespace ReplyDispatcher

variable {U T : Type} [DecidableEq U] (husk : T → T) {s s' : ReplyDispatcher U T}

/-! ### The property -/

/-- No call is in progress. -/
def Idle (s : ReplyDispatcher U T) : Prop := ∀ k c, s.calls k = some c → c.IsOver

/-- **Nothing is left in the table but replies**: an entry for a uuid has a reply that was set for
the uuid, and has not been taken. -/
def NothingLeft (s : ReplyDispatcher U T) : Prop := ∀ u e, s.table u = some e →
  ∃ i v, s.data e = .reply i v ∧ s.calls i = some (.set u v .kept)

/-- **A call attends to the entry of a uuid**: it has come to the entry, it is to erase the uuid, or
it waits for the uuid at an entry that has a value, which will make it erase the uuid. -/
def Attends (s : ReplyDispatcher U T) (u : U) (e : ℕ) (c : ReplyCall U T) : Prop :=
  c.entry? = some (u, e) ∨ (∃ v, c = .taken u v) ∨ ∃ e', c = .waiting u e' ∧ s.data e' ≠ .empty

/-- A call other than the given one attends to the entry. -/
def AttendedBut (s : ReplyDispatcher U T) (w : ℕ) (u : U) (e : ℕ) : Prop :=
  ∃ k c, k ≠ w ∧ s.calls k = some c ∧ s.Attends u e c

/-- **No wait gives up an entry that is left to it**: when a call of `wait_and_get` times out, its
entry is not in the table any more, or another call attends to it. -/
def NotAbandoned (s : ReplyDispatcher U T) : ReplyAct U T → Prop
  | .read w => ∀ u e, s.calls w = some (.waiting u e) → s.data e = .empty → s.table u = some e →
    s.AttendedBut w u e
  | _ => True

/-! ### The entries and their calls -/

/-- A call attends to the entry. -/
def Attended (s : ReplyDispatcher U T) (u : U) (e : ℕ) : Prop :=
  ∃ k c, s.calls k = some c ∧ s.Attends u e c

/-- **What holds between the steps**, whichever calls there are. -/
structure Tracked (s : ReplyDispatcher U T) : Prop where
  /-- The table leads to entries of the uuid. -/
  tabled : ∀ u e, s.table u = some e → s.keys e = some u
  /-- A call that has come to an entry has come to one of its uuid. -/
  arrived : ∀ k c u e, s.calls k = some c → c.entry? = some (u, e) → s.keys e = some u
  /-- A reply in an entry is one that is kept. -/
  reply : ∀ e i v, s.data e = .reply i v →
    ∃ u, s.keys e = some u ∧ s.calls i = some (.set u v .kept)
  /-- A reply is in one entry. -/
  once : ∀ e e' i v v', s.data e = .reply i v → s.data e' = .reply i v' → e = e'

omit [DecidableEq U] in
theorem tracked_new : (new : ReplyDispatcher U T).Tracked := by
  constructor <;> simp [new]

/-! ### What a step does -/

/-- What the first section does to the table: the uuid is there, or it gets a new entry. -/
def Emplaced (s : ReplyDispatcher U T) (u : U) (e : ℕ) (s' : ReplyDispatcher U T) : Prop :=
  (s.table u = some e ∧ s'.table = s.table ∧ s'.keys = s.keys ∧ s'.data = s.data) ∨
    (s.table u = none ∧ s.keys e = none ∧ s'.table = Function.update s.table u (some e) ∧
      s'.keys = Function.update s.keys e (some u) ∧ s'.data = Function.update s.data e .empty)

theorem emplaced_of_tryEmplace {u : U} {a e : ℕ} (hs : s.tryEmplace u a = some (e, s')) :
    s.Emplaced u e s' ∧ s'.calls = s.calls := by
  rw [tryEmplace] at hs
  split at hs
  · next e' htable =>
    cases hs
    exact ⟨.inl ⟨htable, rfl, rfl, rfl⟩, rfl⟩
  · next htable =>
    split at hs
    · cases hs
    · next hfree =>
      cases hs
      exact ⟨.inr ⟨htable, hfree, rfl, rfl, rfl⟩, rfl⟩

/-- An action is the start of a call for a uuid. -/
def StartsCall (u : U) : ReplyAct U T → Prop
  | .setReply _ u' _ _ => u' = u
  | .waitAndGet _ u' _ => u' = u
  | _ => False

omit [DecidableEq U] in
theorem Tracked.settles_setFate (h : s.Tracked) {u : U} {e j : ℕ} {v : T}
    (hkey : s.keys e = some u) (hdata : s.data e = .reply j v) (fate : Fate) :
    s.Settles u e fate (setFate s.calls j fate) := by
  obtain ⟨u', hkey', hj⟩ := h.reply e j v hdata
  rw [hkey, Option.some.injEq] at hkey'
  subst hkey'
  exact ReplyDispatcher.settles_setFate hj hdata fate

/-- **The steps, by what they do.** -/
inductive Steps (s : ReplyDispatcher U T) : ReplyAct U T → ReplyDispatcher U T → Prop where
  /-- A call comes to an entry of its uuid. -/
  | start {a k c u e s'} (hstart : StartsCall u a) (hnew : s.calls k = none)
      (hentry : c.entry? = some (u, e)) (hplace : s.Emplaced u e s')
      (hcalls : s'.calls = Function.update s.calls k (some c)) : Steps s a s'
  /-- `set_reply` writes its entry. -/
  | store {i u v e calls} (hi : s.calls i = some (.setting u v e))
      (hcalls : s.Settles u e .overwritten calls) : Steps s (.store i)
        { s with
          data := Function.update s.data e (.reply i v)
          calls := Function.update calls i (some (.set u v .kept)) }
  /-- `wait_and_get` times out. -/
  | timeout {w u e} (hw : s.calls w = some (.waiting u e)) (hdata : s.data e = .empty) :
      Steps s (.read w)
        { s with calls := Function.update s.calls w (some (.returned u none)) }
  /-- `wait_and_get` moves a value out. -/
  | take {w u e v x calls} (hw : s.calls w = some (.waiting u e))
      (hcalls : s.Settles u e (.takenBy w) calls) : Steps s (.read w)
        { s with
          data := Function.update s.data e (.movedFrom x)
          calls := Function.update calls w (some (.taken u v)) }
  /-- `wait_and_get` erases its uuid. -/
  | erase {w u v} (hw : s.calls w = some (.taken u v)) : Steps s (.erase w)
        { s with
          table := Function.update s.table u none
          calls := Function.update s.calls w (some (.returned u (some v))) }

theorem Tracked.steps (h : s.Tracked) {a : ReplyAct U T} (hs : s.step husk a = some s') :
    s.Steps a s' := by
  cases a with
  | setReply k u v address =>
    rw [step] at hs
    split at hs
    · next e s₁ hnew htry =>
      cases hs
      obtain ⟨hplace, hcalls⟩ := emplaced_of_tryEmplace htry
      exact .start (u := u) rfl hnew rfl hplace (by rw [hcalls])
    · cases hs
  | store i =>
    rw [step] at hs
    split at hs
    · next u v e hi =>
      cases hs
      rw [storeReply]
      have hkey := h.arrived i _ u e hi rfl
      cases hdata : s.data e with
      | empty => exact .store hi (settles_of_ne_reply (by simp [hdata]) _)
      | reply j x => exact .store hi (h.settles_setFate hkey hdata _)
      | movedFrom x => exact .store hi (settles_of_ne_reply (by simp [hdata]) _)
    · cases hs
  | waitAndGet k u address =>
    rw [step] at hs
    split at hs
    · next e s₁ hnew htry =>
      cases hs
      obtain ⟨hplace, hcalls⟩ := emplaced_of_tryEmplace htry
      exact .start (u := u) rfl hnew rfl hplace (by rw [hcalls])
    · cases hs
  | read w =>
    rw [step] at hs
    split at hs
    · next u e hw =>
      cases hs
      rw [readReply]
      have hkey := h.arrived w _ u e hw rfl
      cases hdata : s.data e with
      | empty => exact .timeout hw hdata
      | reply j x => exact .take hw (h.settles_setFate hkey hdata _)
      | movedFrom x => exact .take hw (settles_of_ne_reply (by simp [hdata]) _)
    · cases hs
  | erase w =>
    rw [step] at hs
    split at hs
    · next u v hw =>
      cases hs
      exact .erase hw
    · cases hs

/-! ### The steps keep the invariant -/

/-- **What an entry for a uuid changes**: at most, there is one more entry. -/
theorem Tracked.emplaced (h : s.Tracked) {u : U} {e : ℕ} (hplace : s.Emplaced u e s') :
    (∀ u' e', s.table u' = some e' → s'.table u' = some e') ∧
      (∀ u' e', s'.table u' = some e' → (u' = u ∧ e' = e) ∨ s.table u' = some e') ∧
      s'.keys e = some u ∧
      (∀ u' e', s.keys e' = some u' → s'.keys e' = some u' ∧ s'.data e' = s.data e') ∧
      ∀ e' i v, s'.data e' = .reply i v → s.data e' = .reply i v := by
  obtain ⟨htable, ht, hk, hd⟩ | ⟨htable, hfree, ht, hk, hd⟩ := hplace
  · rw [ht, hk, hd]
    exact ⟨fun _ _ h' => h', fun _ _ h' => .inr h', h.tabled u e htable,
      fun _ _ h' => ⟨h', rfl⟩, fun _ _ _ h' => h'⟩
  · rw [ht, hk, hd]
    refine ⟨fun u' e' h' => ?_, fun u' e' h' => ?_, Function.update_self .., fun u' e' h' => ?_,
      fun e' i v h' => ?_⟩
    · rw [Function.update_of_ne, h']
      rintro rfl
      rw [htable] at h'
      cases h'
    · rw [Function.update_apply] at h'
      split_ifs at h' with hu
      · exact .inl ⟨hu, (Option.some.inj h').symm⟩
      · exact .inr h'
    · have hne : e' ≠ e := by
        rintro rfl
        rw [hfree] at h'
        cases h'
      rw [Function.update_of_ne hne, Function.update_of_ne hne]
      exact ⟨h', rfl⟩
    · rw [Function.update_apply] at h'
      split_ifs at h' with he
      exact h'

/-- A new call leaves what is known about the entries. -/
theorem Tracked.start (h : s.Tracked) {k : ℕ} {c : ReplyCall U T} {u : U} {e : ℕ}
    (hnew : s.calls k = none) (hentry : c.entry? = some (u, e)) (hplace : s.Emplaced u e s')
    (hcalls : s'.calls = Function.update s.calls k (some c)) : s'.Tracked := by
  obtain ⟨-, htable, hkey, hkeys, hdata⟩ := h.emplaced hplace
  refine ⟨fun u' e' h' => ?_, fun k' c' u' e' hk' hc' => ?_, fun e' i v h' => ?_,
    fun e₁ e₂ i v v' h₁ h₂ => h.once e₁ e₂ i v v' (hdata _ _ _ h₁) (hdata _ _ _ h₂)⟩
  · obtain ⟨rfl, rfl⟩ | h' := htable u' e' h'
    · exact hkey
    · exact (hkeys u' e' (h.tabled u' e' h')).1
  · by_cases hc : c' = c
    · rw [hc, hentry] at hc'
      cases hc'
      exact hkey
    · rw [hcalls] at hk'
      exact (hkeys u' e' (h.arrived k' c' u' e' (eq_some_of_update hk' hc) hc')).1
  · obtain ⟨u', hkey', hi⟩ := h.reply e' i v (hdata e' i v h')
    refine ⟨u', (hkeys u' e' hkey').1, ?_⟩
    rw [hcalls]
    exact update_eq_some hi (by simp [hnew])

omit [DecidableEq U] in
/-- **An entry is written or read.** Its reply meets its fate, and the call goes on. -/
theorem Tracked.settle (h : s.Tracked) {k : ℕ} {c c' : ReplyCall U T} {u : U} {e : ℕ} {fate : Fate}
    {calls : ℕ → Option (ReplyCall U T)} {x : Slot T} (hk : s.calls k = some c)
    (hentry : c.entry? = some (u, e)) (hcalls : s.Settles u e fate calls)
    (hentry' : c'.entry? = none)
    (hx : ∀ i v, x = .reply i v → i = k ∧ c' = .set u v .kept) :
    ({ s with
      data := Function.update s.data e x
      calls := Function.update calls k (some c') } : ReplyDispatcher U T).Tracked := by
  have hkey := h.arrived k c u e hk hentry
  have hset : ∀ {c : ReplyCall U T} {u e}, c.entry? = some (u, e) → ∀ u v f, c ≠ .set u v f := by
    rintro _ u e hc u v f rfl
    cases hc
  have hold : calls k = some c := hcalls.ne_set hk (hset hentry)
  -- the call that goes on has not written a reply before
  have hnew : ∀ e' v, s.data e' ≠ .reply k v := by
    intro e' v hdata
    obtain ⟨u', -, hk'⟩ := h.reply e' k v hdata
    rw [hk] at hk'
    exact hset hentry _ _ _ (Option.some.inj hk')
  refine ⟨h.tabled, fun k' d u' e' hk' hd => ?_, fun e' i v hdata => ?_,
    fun e₁ e₂ i v v' h₁ h₂ => ?_⟩
  · have hne : d ≠ c' := by
      rintro rfl
      rw [hentry'] at hd
      cases hd
    exact h.arrived k' d u' e' (hcalls.of_ne_set (eq_some_of_update hk' hne) (hset hd)) hd
  · dsimp only at hdata ⊢
    by_cases he : e' = e
    · rw [he, Function.update_self] at hdata
      obtain ⟨rfl, rfl⟩ := hx i v hdata
      exact ⟨u, by rw [he, hkey], Function.update_self ..⟩
    · rw [Function.update_of_ne he] at hdata
      obtain ⟨u', hkey', hi⟩ := h.reply e' i v hdata
      have hother : s.data e ≠ .reply i v := fun h' => he (h.once e' e i v v hdata h')
      exact ⟨u', hkey', update_eq_some (hcalls.kept hi hother)
        (by rw [hold]; exact fun h' => hset hentry _ _ _ (Option.some.inj h'))⟩
  · dsimp only at h₁ h₂
    rw [Function.update_apply] at h₁ h₂
    split_ifs at h₁ h₂ with he₁ he₂ he₂
    · rw [he₁, he₂]
    · obtain ⟨rfl, -⟩ := hx i v h₁
      exact absurd h₂ (hnew e₂ v')
    · obtain ⟨rfl, -⟩ := hx i v' h₂
      exact absurd h₁ (hnew e₁ v)
    · exact h.once e₁ e₂ i v v' h₁ h₂

theorem Tracked.step (h : s.Tracked) {a : ReplyAct U T} (hs : s.step husk a = some s') :
    s'.Tracked := by
  cases h.steps husk hs with
  | start _ hnew hentry hplace hcalls => exact h.start hnew hentry hplace hcalls
  | store hi hcalls =>
    refine h.settle hi rfl hcalls rfl ?_
    rintro _ _ ⟨⟩
    exact ⟨rfl, rfl⟩
  | @timeout w u e hw hdata =>
    have hsettles := settles_of_ne_reply (u := u) (e := e) (s := s) (by simp [hdata]) .overwritten
    have hstep : ({ s with
        data := Function.update s.data e (s.data e)
        calls := Function.update s.calls w (some (.returned u none)) } :
          ReplyDispatcher U T).Tracked := h.settle hw rfl hsettles rfl (by simp [hdata])
    rwa [Function.update_eq_self] at hstep
  | take hw hcalls =>
    refine h.settle hw rfl hcalls rfl ?_
    rintro _ _ ⟨⟩
  | @erase w u v hw =>
    refine ⟨fun u' e' h' => ?_, fun k c u' e' hk hc => ?_, fun e' i v' hdata => ?_, h.once⟩
    · dsimp only at h'
      rw [Function.update_apply] at h'
      split_ifs at h'
      exact h.tabled u' e' h'
    · have hne : c ≠ .returned u (some v) := by
        rintro rfl
        cases hc
      exact h.arrived k c u' e' (eq_some_of_update hk hne) hc
    · obtain ⟨u', hkey, hi⟩ := h.reply e' i v' hdata
      exact ⟨u', hkey, update_eq_some hi (by simp [hw])⟩

/-! ### No entry is left to nobody -/

/-- **Every entry in the table that has no reply is attended.** -/
def AllAttended (s : ReplyDispatcher U T) : Prop := ∀ u e, s.table u = some e →
  (∀ i v, s.data e ≠ .reply i v) → s.Attended u e

omit [DecidableEq U] in
theorem not_over_of_attends {c : ReplyCall U T} {u : U} {e : ℕ} (hc : s.Attends u e c) :
    ¬ c.IsOver := by
  intro hover
  obtain hc | ⟨v, rfl⟩ | ⟨e', rfl, -⟩ := hc
  · cases c with
    | set | returned => cases hc
    | _ => exact hover
  · exact hover
  · exact hover

omit [DecidableEq U] in
/-- A call attends to its entry as long as entries do not become empty. -/
theorem Attends.mono {c : ReplyCall U T} {u : U} {e : ℕ} (hc : s.Attends u e c)
    (hdata : ∀ e', s.data e' ≠ .empty → s'.data e' ≠ .empty) : s'.Attends u e c := by
  obtain hc | ⟨v, hc⟩ | ⟨e', hc, he'⟩ := hc
  · exact .inl hc
  · exact .inr (.inl ⟨v, hc⟩)
  · exact .inr (.inr ⟨e', hc, hdata e' he'⟩)

omit [DecidableEq U] in
/-- **A call goes on from its entry**, and the others attend to theirs. If it has attended to the
entry of its uuid without having come to it, it still does. -/
theorem Attended.settle {k : ℕ} {c c' : ReplyCall U T} {u u' : U} {e e' : ℕ} {fate : Fate}
    {calls : ℕ → Option (ReplyCall U T)} (hatt : s.Attended u' e') (hk : s.calls k = some c)
    (hentry : c.entry? = some (u, e)) (hcalls : s.Settles u e fate calls) (he : e' ≠ e)
    (hs' : s'.calls = Function.update calls k (some c'))
    (hdata : ∀ e', s.data e' ≠ .empty → s'.data e' ≠ .empty)
    (hgo : c = .waiting u e → s.data e ≠ .empty → ∃ v, c' = .taken u v) : s'.Attended u' e' := by
  obtain ⟨j, d, hj, hd⟩ := hatt
  by_cases hjk : j = k
  · subst hjk
    rw [hk] at hj
    cases hj
    refine ⟨j, c', by rw [hs', Function.update_self], ?_⟩
    obtain hd | ⟨v, rfl⟩ | ⟨e'', rfl, he''⟩ := hd
    · rw [hentry] at hd
      cases hd
      exact absurd rfl he
    · cases hentry
    · cases hentry
      exact .inr (.inl (hgo rfl he''))
  · have hset : ∀ u v f, d ≠ .set u v f := by
      rintro u v f rfl
      exact not_over_of_attends hd trivial
    refine ⟨j, d, ?_, hd.mono hdata⟩
    rw [hs', Function.update_of_ne hjk]
    exact hcalls.ne_set hj hset

/-- An entry that is written does not become empty, and neither does another one. -/
theorem update_ne_empty {data : ℕ → Slot T} {e e' : ℕ} {x : Slot T} (hx : x ≠ .empty)
    (h : data e' ≠ .empty) : Function.update data e x e' ≠ .empty := by
  rw [Function.update_apply]
  split_ifs
  · exact hx
  · exact h

theorem AllAttended.step (h : s.AllAttended) (htr : s.Tracked) {a : ReplyAct U T}
    (hok : s.NotAbandoned a) (hs : s.step husk a = some s') : s'.AllAttended := by
  intro u' e' htable hdata'
  cases htr.steps husk hs with
  | @start a k c u e _ _ hnew hentry hplace hcalls =>
    obtain ⟨-, hold, -, hkeys, -⟩ := htr.emplaced hplace
    obtain ⟨rfl, rfl⟩ | hu := hold u' e' htable
    · exact ⟨k, c, by rw [hcalls, Function.update_self], .inl hentry⟩
    · rw [(hkeys u' e' (htr.tabled u' e' hu)).2] at hdata'
      obtain ⟨j, d, hj, hd⟩ := h u' e' hu hdata'
      refine ⟨j, d, by rw [hcalls]; exact update_eq_some hj (by simp [hnew]), ?_⟩
      obtain hd | ⟨v, hd⟩ | ⟨e'', rfl, he''⟩ := hd
      · exact .inl hd
      · exact .inr (.inl ⟨v, hd⟩)
      · refine .inr (.inr ⟨e'', rfl, ?_⟩)
        rw [(hkeys u' e'' (htr.arrived j _ u' e'' hj rfl)).2]
        exact he''
  | @store i u v e calls hi hcalls =>
    have he : e' ≠ e := by
      rintro rfl
      exact hdata' i v (Function.update_self ..)
    dsimp only at hdata'
    rw [Function.update_of_ne he] at hdata'
    refine (h u' e' htable hdata').settle hi rfl hcalls he rfl ?_ ?_
    · exact fun _ => update_ne_empty (by simp)
    · rintro ⟨⟩
  | @timeout w u e hw hdata =>
    by_cases he : e' = e
    · subst he
      have hkey := htr.arrived w _ u e' hw rfl
      rw [htr.tabled u' e' htable, Option.some.injEq] at hkey
      subst hkey
      obtain ⟨j, d, hne, hj, hd⟩ := hok u' e' hw hdata htable
      refine ⟨j, d, ?_, hd.mono fun _ => id⟩
      dsimp only
      rw [Function.update_of_ne hne, hj]
    · have hsettles := settles_of_ne_reply (u := u) (e := e) (s := s) (by simp [hdata]) .overwritten
      refine (h u' e' htable hdata').settle hw rfl hsettles he rfl (fun _ => id) ?_
      exact fun _ hne => absurd hdata hne
  | @take w u e v x calls hw hcalls =>
    by_cases he : e' = e
    · subst he
      have hkey := htr.arrived w _ u e' hw rfl
      rw [htr.tabled u' e' htable, Option.some.injEq] at hkey
      subst hkey
      exact ⟨w, _, Function.update_self .., .inr (.inl ⟨v, rfl⟩)⟩
    · dsimp only at hdata'
      rw [Function.update_of_ne he] at hdata'
      refine (h u' e' htable hdata').settle hw rfl hcalls he rfl ?_ fun _ _ => ⟨v, rfl⟩
      exact fun _ => update_ne_empty (by simp)
  | @erase w u v hw =>
    dsimp only at htable hdata'
    rw [Function.update_apply] at htable
    split_ifs at htable with hu
    obtain ⟨j, d, hj, hd⟩ := h u' e' htable hdata'
    refine ⟨j, d, ?_, hd.mono fun _ => id⟩
    dsimp only
    rw [Function.update_of_ne, hj]
    -- the call that erases another uuid attends to this one in no way
    rintro rfl
    rw [hw] at hj
    cases hj
    obtain hd | ⟨v', hd⟩ | ⟨e'', hd, -⟩ := hd
    · cases hd
    · cases hd
      exact hu rfl
    · cases hd

omit [DecidableEq U] in
/-- When no call is in progress, nothing is attended. -/
theorem AllAttended.onlyReplies (h : s.AllAttended) (htr : s.Tracked) (hidle : s.Idle) :
    s.NothingLeft := by
  intro u e htable
  by_cases hdata : ∃ i v, s.data e = .reply i v
  · obtain ⟨i, v, hdata⟩ := hdata
    obtain ⟨u', hkey, hi⟩ := htr.reply e i v hdata
    rw [htr.tabled u e htable, Option.some.injEq] at hkey
    subst hkey
    exact ⟨i, v, hdata, hi⟩
  · obtain ⟨k, c, hk, hc⟩ := h u e htable fun i v h' => hdata ⟨i, v, h'⟩
    exact absurd (hidle k c hk) (not_over_of_attends hc)

/-- **Nothing is left in the table but replies**, when no call is in progress and no wait has given
up an entry that was left to it. -/
theorem nothingLeft {as : List (ReplyAct U T)} {s : ReplyDispatcher U T}
    (hok : Guarded (step husk) NotAbandoned new as) (hrun : runFrom (step husk) new as = some s)
    (hidle : s.Idle) : s.NothingLeft := by
  have hinv : s.Tracked ∧ s.AllAttended := by
    refine hok.invariant (I := fun s => s.Tracked ∧ s.AllAttended) ?_ ⟨tracked_new, ?_⟩ hrun
    · rintro s a s' ⟨htr, hall⟩ hok hs
      exact ⟨htr.step husk hs, hall.step husk htr hok hs⟩
    · rintro u e ⟨⟩
  exact hinv.2.onlyReplies hinv.1 hidle

/-- A reply is taken, and one for another uuid is left. -/
theorem nothingLeft_oneTaken : ∃ s,
    runFrom (step fun _ => "") (new : ReplyDispatcher ℕ String)
      [.waitAndGet 1 7 0, .setReply 0 7 "reply" 1, .store 0, .read 1, .erase 1,
        .setReply 2 8 "early" 1, .store 2] = some s ∧ s.NothingLeft := by
  have hok : Guarded (step fun _ => "") NotAbandoned (new : ReplyDispatcher ℕ String)
      [.waitAndGet 1 7 0, .setReply 0 7 "reply" 1, .store 0, .read 1, .erase 1,
        .setReply 2 8 "early" 1, .store 2] := by
    refine ⟨trivial, ?_⟩
    rintro s₁ ⟨⟩
    refine ⟨trivial, ?_⟩
    rintro s₂ ⟨⟩
    refine ⟨trivial, ?_⟩
    rintro s₃ ⟨⟩
    -- the only wait ends with a reply
    refine ⟨?_, ?_⟩
    · rintro u e ⟨⟩ hdata
      cases hdata
    rintro s₄ ⟨⟩
    refine ⟨trivial, ?_⟩
    rintro s₅ ⟨⟩
    refine ⟨trivial, ?_⟩
    rintro s₆ ⟨⟩
    exact ⟨trivial, fun _ _ => trivial⟩
  refine ⟨_, rfl, nothingLeft _ hok rfl ?_⟩
  rintro (_ | _ | _ | k) c hk
  · cases hk
    exact trivial
  · cases hk
    exact trivial
  · cases hk
    exact trivial
  · cases hk

/-- **A wait that times out leaves its entry behind.** -/
theorem not_nothingLeft : ¬ ∀ (as : List (ReplyAct ℕ String)) (s : ReplyDispatcher ℕ String),
    runFrom (step fun _ => "") new as = some s → s.Idle → s.NothingLeft := by
  intro h
  have hleft := h [.waitAndGet 1 7 0, .read 1] _ rfl
  obtain ⟨i, v, hdata, -⟩ := hleft (by
    rintro (_ | _ | k) c hk
    · cases hk
    · cases hk
      exact trivial
    · cases hk) 7 0 rfl
  cases hdata

/-! ### An entry that was given up -/

/-- **An entry is forgotten**: it is in the table without a reply, and no call for its uuid is in
progress. -/
structure Forgotten (s : ReplyDispatcher U T) (u : U) (e : ℕ) : Prop where
  /-- The entry is in the table. -/
  tabled : s.table u = some e
  /-- It has no reply. -/
  empty : s.data e = .empty
  /-- No call has come to an entry of the uuid. -/
  entry : ∀ k c e', s.calls k = some c → c.entry? ≠ some (u, e')
  /-- No call is to erase the uuid. -/
  taken : ∀ k v, s.calls k ≠ some (.taken u v)

theorem Forgotten.step {u : U} {e : ℕ} (h : s.Forgotten u e) (htr : s.Tracked) {a : ReplyAct U T}
    (hother : ¬ StartsCall u a) (hs : s.step husk a = some s') : s'.Forgotten u e := by
  have hcalls : ∀ {k c c' calls u' e' fate}, s.calls k = some c → c.entry? = some (u', e') →
      s.Settles u' e' fate calls → c'.entry? = none → ∀ k' d e'',
      Function.update calls k (some c') k' = some d → d.entry? ≠ some (u, e'') := by
    intro k c c' calls u' e' fate hk hentry hsettles hentry' k' d e'' hk' hd
    have hne : d ≠ c' := by
      rintro rfl
      rw [hentry'] at hd
      cases hd
    have hset : ∀ u v f, d ≠ .set u v f := by
      rintro u v f rfl
      cases hd
    exact h.entry k' d e'' (hsettles.of_ne_set (eq_some_of_update hk' hne) hset) hd
  have hdata : ∀ {k c u' e' x}, s.calls k = some c → c.entry? = some (u', e') →
      Function.update s.data e' x e = .empty := by
    intro k c u' e' x hk hentry
    rw [Function.update_of_ne, h.empty]
    rintro rfl
    have hkey := htr.arrived k c u' e hk hentry
    rw [htr.tabled u e h.tabled] at hkey
    cases hkey
    exact h.entry k c e hk hentry
  cases htr.steps husk hs with
  | @start a k c u' e' _ hstart hnew hentry hplace hstarted =>
    have hu : u' ≠ u := by
      rintro rfl
      exact hother hstart
    obtain ⟨htable, -, -, hkeys, -⟩ := htr.emplaced hplace
    have hold : ∀ {k' d}, s'.calls k' = some d → d ≠ c → s.calls k' = some d := by
      rw [hstarted]
      exact eq_some_of_update
    refine ⟨htable u e h.tabled, ?_, fun k' d e'' hk' hd => ?_, fun k' v hk' => ?_⟩
    · rw [(hkeys u e (htr.tabled u e h.tabled)).2, h.empty]
    · refine h.entry k' d e'' (hold hk' ?_) hd
      rintro rfl
      rw [hentry] at hd
      cases hd
      exact hu rfl
    · refine h.taken k' v (hold hk' ?_)
      rintro rfl
      cases hentry
  | @store i u' v e' calls hi hsettles =>
    refine ⟨h.tabled, hdata hi rfl, hcalls hi rfl hsettles rfl, fun k v' hk => ?_⟩
    exact h.taken k v' (hsettles.of_ne_set (eq_some_of_update hk (by simp)) (by simp))
  | @timeout w u' e' hw hempty =>
    have hsettles := settles_of_ne_reply (u := u') (e := e') (s := s) (by simp [hempty])
      .overwritten
    refine ⟨h.tabled, h.empty, hcalls hw rfl hsettles rfl, fun k v' hk => ?_⟩
    exact h.taken k v' (eq_some_of_update hk (by simp))
  | @take w u' e' v x calls hw hsettles =>
    refine ⟨h.tabled, hdata hw rfl, hcalls hw rfl hsettles rfl, fun k v' hk => ?_⟩
    refine h.taken k v' (hsettles.of_ne_set (eq_some_of_update hk ?_) (by simp))
    rintro ⟨⟩
    exact h.entry w _ e' hw rfl
  | @erase w u' v hw =>
    have hu : u ≠ u' := by
      rintro rfl
      exact h.taken w v hw
    refine ⟨?_, h.empty, fun k d e'' hk hd => ?_, fun k v' hk => ?_⟩
    · dsimp only
      rw [Function.update_of_ne hu, h.tabled]
    · refine h.entry k d e'' (eq_some_of_update hk ?_) hd
      rintro rfl
      cases hd
    · exact h.taken k v' (eq_some_of_update hk (by simp))

/-- **What is given up stays**: when a wait for a uuid times out, and no other call for the uuid is
in progress, its entry is in the table without a reply until there is another call for the uuid. -/
theorem abandoned_stays {pre post : List (ReplyAct U T)} {s s₁ s' : ReplyDispatcher U T} {w e : ℕ}
    {u : U} (hpre : runFrom (step husk) new pre = some s) (hw : s.calls w = some (.waiting u e))
    (hdata : s.data e = .empty) (htable : s.table u = some e)
    (halone : ∀ k c, k ≠ w → s.calls k = some c →
      (∀ e', c.entry? ≠ some (u, e')) ∧ ∀ v, c ≠ .taken u v)
    (hread : s.step husk (.read w) = some s₁) (hrun : runFrom (step husk) s₁ post = some s')
    (hpost : ∀ a ∈ post, ¬ StartsCall u a) :
    s'.Forgotten u e ∧ ¬ s'.NothingLeft := by
  have htr : s.Tracked := runFrom_invariant (fun _ _ _ h => h.step husk) tracked_new hpre
  have hgone : s₁.Forgotten u e := by
    simp only [ReplyDispatcher.step, hw, readReply, hdata, Option.some.injEq] at hread
    subst hread
    have hother : ∀ {k c}, Function.update s.calls w (some (.returned u none)) k = some c →
        c ≠ .returned u none → (∀ e', c.entry? ≠ some (u, e')) ∧ ∀ v, c ≠ .taken u v := by
      intro k c hk hne
      refine halone k c ?_ (eq_some_of_update hk hne)
      rintro rfl
      rw [Function.update_self, Option.some.injEq] at hk
      exact hne hk.symm
    refine ⟨htable, hdata, fun k c e' hk hc => ?_, fun k v hk => ?_⟩
    · refine (hother hk ?_).1 e' hc
      rintro rfl
      cases hc
    · exact (hother hk (by simp)).2 v rfl
  have hguard : Guarded (step husk) (fun _ a => ¬ StartsCall u a) s₁ post := by
    refine guarded_iff.mpr ?_
    rintro pre a post _ rfl -
    exact hpost a (by simp)
  have hend : s'.Tracked ∧ s'.Forgotten u e := by
    refine hguard.invariant (I := fun s => s.Tracked ∧ s.Forgotten u e) ?_
      ⟨htr.step husk hread, hgone⟩ hrun
    rintro s a s' ⟨htr, h⟩ hother hs
    exact ⟨htr.step husk hs, h.step husk htr hother hs⟩
  refine ⟨hend.2, fun hleft => ?_⟩
  obtain ⟨i, v, hreply, -⟩ := hleft u e hend.2.tabled
  rw [hend.2.empty] at hreply
  cases hreply

end ReplyDispatcher

end DetectBase
