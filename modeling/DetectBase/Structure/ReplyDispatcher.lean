import DetectBase.Foundations.Transition
import Mathlib.Logic.Function.Basic

/-!
# Replies by uuid

`ReplyDispatcher.h`: `set_reply` leaves a reply under a uuid, and `wait_and_get` waits for it there
and takes it away. The table of the dispatcher and each of its entries have a mutex of their own, so
that a call is made of separate steps: both kinds of call look up the entry, or make one;
`set_reply` then writes it; `wait_and_get` reads it, and, when it has got a reply, erases the uuid
from the table in a third step.

An entry is shared, and a call may come to it after its reply has been moved out. The optional still
reports a value then (`DetectBase.Slot.movedFrom`), so that a second reader gets what a move leaves
behind, and what a writer stores is erased with the entry. When no call comes to an entry from which
the reply has been taken (`DetectBase.ReplyDispatcher.NotTooLate`), the entry that the table has for
a uuid is the one with its reply, and a value that a call has got is the reply of one other call
(`DetectBase.ReplyDispatcher.Inv`).

The buckets of the table are not modelled: a uuid is always in the same one. What a call has seen of
a reply is recorded with the call (`DetectBase.Fate`).
-/

namespace DetectBase

/-! ### The model -/

/-- `std::optional<T> data` of an entry. -/
inductive Slot (T : Type) where
  /-- There has not been a reply. -/
  | empty : Slot T
  /-- There is the reply of a call of `set_reply`. -/
  | reply (call : ℕ) (value : T) : Slot T
  /-- There is what a move has left of a reply. -/
  | movedFrom (value : T) : Slot T

/-- The reply has been moved out. -/
def Slot.isMovedFrom {T : Type} : Slot T → Bool
  | .movedFrom _ => true
  | _ => false

/-- What has become of a reply. -/
inductive Fate where
  /-- It is in its entry. -/
  | kept : Fate
  /-- Another reply was written over it. -/
  | overwritten : Fate
  /-- It was moved out by a call of `wait_and_get`. -/
  | takenBy (call : ℕ) : Fate

/-- How far a call has got. -/
inductive ReplyCall (U T : Type) where
  /-- `set_reply` has its entry. -/
  | setting (uuid : U) (value : T) (entry : ℕ) : ReplyCall U T
  /-- `set_reply` has written the entry. -/
  | set (uuid : U) (value : T) (fate : Fate) : ReplyCall U T
  /-- `wait_and_get` has its entry. -/
  | waiting (uuid : U) (entry : ℕ) : ReplyCall U T
  /-- `wait_and_get` has moved a value out, and is to erase the uuid. -/
  | taken (uuid : U) (value : T) : ReplyCall U T
  /-- `wait_and_get` has returned. -/
  | returned (uuid : U) (result : Option T) : ReplyCall U T

/-- A step of a call. -/
inductive ReplyAct (U T : Type) where
  /-- `set_reply` looks up its entry. A new one would be made at the given address. -/
  | setReply (call : ℕ) (uuid : U) (value : T) (address : ℕ) : ReplyAct U T
  /-- `set_reply` writes its entry. -/
  | store (call : ℕ) : ReplyAct U T
  /-- `wait_and_get` looks up its entry. A new one would be made at the given address. -/
  | waitAndGet (call : ℕ) (uuid : U) (address : ℕ) : ReplyAct U T
  /-- `wait_and_get` ends its wait, with a value if there is one, else by its timeout. -/
  | read (call : ℕ) : ReplyAct U T
  /-- `wait_and_get` erases its uuid, and returns. -/
  | erase (call : ℕ) : ReplyAct U T

/-- `ReplyDispatcher`, with the calls that were made. -/
structure ReplyDispatcher (U T : Type) where
  /-- `table`: the address of the entry of a uuid. -/
  table : U → Option ℕ
  /-- The uuid for which the entry at an address was made. -/
  keys : ℕ → Option U
  /-- `data` of the entry at an address. -/
  data : ℕ → Slot T
  /-- The calls. -/
  calls : ℕ → Option (ReplyCall U T)

namespace ReplyDispatcher

variable {U T : Type} [DecidableEq U] (husk : T → T)

/-- A dispatcher without a call. -/
def new : ReplyDispatcher U T := ⟨fun _ => none, fun _ => none, fun _ => .empty, fun _ => none⟩

/-- The first section of both calls: `try_emplace`, and `make_shared` if the uuid was not there. -/
def tryEmplace (s : ReplyDispatcher U T) (uuid : U) (address : ℕ) :
    Option (ℕ × ReplyDispatcher U T) :=
  match s.table uuid with
  | some entry => some (entry, s)
  | none =>
    match s.keys address with
    | some _ => none
    | none => some (address, { s with
        table := Function.update s.table uuid (some address)
        keys := Function.update s.keys address (some uuid)
        data := Function.update s.data address .empty })

/-- Record what has become of the reply of a call. -/
def setFate (calls : ℕ → Option (ReplyCall U T)) (call : ℕ) (fate : Fate) :
    ℕ → Option (ReplyCall U T) :=
  match calls call with
  | some (.set uuid value _) => Function.update calls call (some (.set uuid value fate))
  | _ => calls

/-- The second section of `set_reply`. -/
def storeReply (s : ReplyDispatcher U T) (call : ℕ) (uuid : U) (value : T) (address : ℕ) :
    ReplyDispatcher U T :=
  let calls := match s.data address with
    | .reply older _ => setFate s.calls older .overwritten
    | _ => s.calls
  { s with
    data := Function.update s.data address (.reply call value)
    calls := Function.update calls call (some (.set uuid value .kept)) }

/-- The second section of `wait_and_get`. `husk` is what a move leaves of a value. -/
def readReply (s : ReplyDispatcher U T) (call : ℕ) (uuid : U) (address : ℕ) :
    ReplyDispatcher U T :=
  match s.data address with
  | .empty => { s with calls := Function.update s.calls call (some (.returned uuid none)) }
  | .reply setter value =>
    { s with
      data := Function.update s.data address (.movedFrom (husk value))
      calls := Function.update (setFate s.calls setter (.takenBy call)) call
        (some (.taken uuid value)) }
  | .movedFrom value =>
    { s with
      data := Function.update s.data address (.movedFrom (husk value))
      calls := Function.update s.calls call (some (.taken uuid value)) }

/-- **A step of a call.** -/
def step (s : ReplyDispatcher U T) : ReplyAct U T → Option (ReplyDispatcher U T)
  | .setReply call uuid value address =>
    match s.calls call, s.tryEmplace uuid address with
    | none, some (entry, s') =>
      some { s' with calls := Function.update s'.calls call (some (.setting uuid value entry)) }
    | _, _ => none
  | .store call =>
    match s.calls call with
    | some (.setting uuid value address) => some (s.storeReply call uuid value address)
    | _ => none
  | .waitAndGet call uuid address =>
    match s.calls call, s.tryEmplace uuid address with
    | none, some (entry, s') =>
      some { s' with calls := Function.update s'.calls call (some (.waiting uuid entry)) }
    | _, _ => none
  | .read call =>
    match s.calls call with
    | some (.waiting uuid address) => some (s.readReply husk call uuid address)
    | _ => none
  | .erase call =>
    match s.calls call with
    | some (.taken uuid value) =>
      some { s with
        table := Function.update s.table uuid none
        calls := Function.update s.calls call (some (.returned uuid (some value))) }
    | _ => none

/-- **No call comes too late**: none writes or reads an entry from which the reply has been moved
out. -/
def NotTooLate (s : ReplyDispatcher U T) : ReplyAct U T → Prop
  | .store call => ∀ uuid value address, s.calls call = some (.setting uuid value address) →
    (s.data address).isMovedFrom = false
  | .read call => ∀ uuid address, s.calls call = some (.waiting uuid address) →
    (s.data address).isMovedFrom = false
  | _ => True

instance (s : ReplyDispatcher U T) : ∀ a, Decidable (s.NotTooLate a)
  | .store call =>
    match hcall : s.calls call with
    | some (.setting _ _ address) =>
      decidable_of_iff ((s.data address).isMovedFrom = false) (by simp [NotTooLate, hcall])
    | none | some (.set ..) | some (.waiting ..) | some (.taken ..) | some (.returned ..) =>
      .isTrue (by simp [NotTooLate, hcall])
  | .read call =>
    match hcall : s.calls call with
    | some (.waiting _ address) =>
      decidable_of_iff ((s.data address).isMovedFrom = false) (by simp [NotTooLate, hcall])
    | none | some (.set ..) | some (.setting ..) | some (.taken ..) | some (.returned ..) =>
      .isTrue (by simp [NotTooLate, hcall])
  | .setReply .. | .waitAndGet .. | .erase _ => .isTrue trivial

/-! ### The invariant -/

/-- **What holds between the steps**, when no call comes too late. -/
structure Inv (s : ReplyDispatcher U T) : Prop where
  /-- The table leads to entries of the uuid. -/
  tabled : ∀ u e, s.table u = some e → s.keys e = some u
  /-- An entry whose reply has not been moved out is in the table. -/
  attached : ∀ u e, s.keys e = some u → (s.data e).isMovedFrom = false → s.table u = some e
  /-- A call that has its entry has one of its uuid. -/
  setting : ∀ i u v e, s.calls i = some (.setting u v e) → s.keys e = some u
  /-- The same for a call that waits. -/
  waiting : ∀ w u e, s.calls w = some (.waiting u e) → s.keys e = some u
  /-- A reply in an entry is one that is kept. -/
  reply : ∀ u e i v, s.keys e = some u → s.data e = .reply i v → s.calls i = some (.set u v .kept)
  /-- A reply that is kept is in the entry of its uuid. -/
  kept : ∀ i u v, s.calls i = some (.set u v .kept) → (s.table u).map s.data = some (.reply i v)
  /-- A call that is to erase its uuid will erase an entry whose reply has been moved out. -/
  erasing : ∀ w u v, s.calls w = some (.taken u v) →
    (s.table u).any (fun e => (s.data e).isMovedFrom) = true
  /-- There is one such call at most. -/
  eraser : ∀ w w' u v v', s.calls w = some (.taken u v) → s.calls w' = some (.taken u v') → w = w'
  /-- What a call has got is the reply of a call, which was taken by it. -/
  origin : ∀ w u v, (s.calls w = some (.taken u v) ∨ s.calls w = some (.returned u (some v))) →
    ∃ i, s.calls i = some (.set u v (.takenBy w))
  /-- A reply that was taken by a call is what the call has got. -/
  taker : ∀ i u v w, s.calls i = some (.set u v (.takenBy w)) →
    s.calls w = some (.taken u v) ∨ s.calls w = some (.returned u (some v))

omit [DecidableEq U] in
theorem inv_new : (new : ReplyDispatcher U T).Inv := by
  constructor <;> simp [new]

/-! ### The steps keep the invariant -/

section Update

variable {β : Type} {f : ℕ → Option β} {i k : ℕ} {b c : β}

/-- What was not put in by an update was there before. -/
theorem eq_some_of_update (h : Function.update f i (some b) k = some c) (hne : c ≠ b) :
    f k = some c := by
  rw [Function.update_apply] at h
  split_ifs at h
  · exact absurd (Option.some.inj h).symm hne
  · exact h

/-- What was elsewhere is there after an update. -/
theorem update_eq_some {x : Option β} (h : f k = some c) (hne : f i ≠ some c) :
    Function.update f i x k = some c := by
  rw [Function.update_of_ne, h]
  rintro rfl
  exact hne h

end Update

variable {s s' : ReplyDispatcher U T}

/-- The first section leads to an entry of the uuid. -/
theorem Inv.tryEmplace (h : s.Inv) {u : U} {a e : ℕ} (hs : s.tryEmplace u a = some (e, s')) :
    s'.Inv ∧ s'.calls = s.calls ∧ s'.table u = some e := by
  rw [ReplyDispatcher.tryEmplace] at hs
  split at hs
  · next e' htable =>
    cases hs
    exact ⟨h, rfl, htable⟩
  · next htable =>
    split at hs
    · cases hs
    · next hfree =>
      cases hs
      -- what is in the table is neither the uuid nor the address
      have hother : ∀ {u' e'}, s.table u' = some e' → u' ≠ u ∧ e' ≠ a := by
        intro u' e' hu'
        have hkey := h.tabled u' e' hu'
        constructor
        · rintro rfl
          rw [htable] at hu'
          cases hu'
        · rintro rfl
          rw [hfree] at hkey
          cases hkey
      refine ⟨⟨?_, ?_, ?_, ?_, ?_, ?_, ?_, h.eraser, h.origin, h.taker⟩, rfl,
        Function.update_self ..⟩
      · intro u' e' hu'
        have := h.tabled u' e'
        simp only [Function.update_apply] at hu' ⊢
        grind
      · intro u' e' he' hdata
        have := h.attached u' e'
        simp only [Function.update_apply] at he' hdata ⊢
        grind
      · intro i u' v e' hi
        have := h.setting i u' v e' hi
        simp only [Function.update_apply]
        grind
      · intro w u' e' hw
        have := h.waiting w u' e' hw
        simp only [Function.update_apply]
        grind
      · intro u' e' i v he' hdata
        have := h.reply u' e' i v
        simp only [Function.update_apply] at he' hdata
        grind
      · intro i u' v hi
        obtain ⟨e', he', hdata⟩ := Option.map_eq_some_iff.mp (h.kept i u' v hi)
        show ((Function.update s.table u (some a)) u').map (Function.update s.data a .empty) = _
        rw [Function.update_of_ne (hother he').1, he', Option.map_some,
          Function.update_of_ne (hother he').2, hdata]
      · intro w u' v hw
        obtain ⟨e', he', hdata⟩ := (Option.any_eq_true _ _).mp (h.erasing w u' v hw)
        show ((Function.update s.table u (some a)) u').any
          (fun e => (Function.update s.data a .empty e).isMovedFrom) = true
        rw [Function.update_of_ne (hother he').1, he', Option.any_some,
          Function.update_of_ne (hother he').2, hdata]

section

omit [DecidableEq U]

/-- A call that gets its entry, or that ends its wait without a reply. -/
theorem Inv.setCall (h : s.Inv) {i : ℕ} (hold : ∀ c, s.calls i = some c → ∃ u e, c = .waiting u e)
    {c : ReplyCall U T} {u : U} {e : ℕ} (hkey : s.keys e = some u)
    (hc : (∃ v, c = .setting u v e) ∨ c = .waiting u e ∨ c = .returned u none) :
    ({ s with calls := Function.update s.calls i (some c) } : ReplyDispatcher U T).Inv := by
  -- the other clauses are about calls of other kinds
  have hother : ∀ {c'}, (∀ v, c' ≠ .setting u v e) → c' ≠ .waiting u e → c' ≠ .returned u none →
      c' ≠ c := by
    rintro c' hset hwait hret rfl
    obtain ⟨v, rfl⟩ | rfl | rfl := hc
    · exact hset v rfl
    · exact hwait rfl
    · exact hret rfl
  have hkept : ∀ {c'}, (∀ u' e', c' ≠ .waiting u' e') → s.calls i ≠ some c' := by
    intro c' hne hi
    obtain ⟨u', e', rfl⟩ := hold c' hi
    exact hne u' e' rfl
  refine ⟨h.tabled, h.attached, ?_, ?_, ?_, ?_, ?_, ?_, ?_, ?_⟩
  · intro j u' v e' hj
    have := h.setting j u' v e'
    simp only [Function.update_apply] at hj
    grind
  · intro w u' e' hw
    have := h.waiting w u' e'
    simp only [Function.update_apply] at hw
    grind
  · exact fun u' e' j v he' hdata => update_eq_some (h.reply u' e' j v he' hdata) (hkept (by simp))
  · intro j u' v hj
    exact h.kept j u' v (eq_some_of_update hj (hother (by simp) (by simp) (by simp)))
  · intro w u' v hw
    exact h.erasing w u' v (eq_some_of_update hw (hother (by simp) (by simp) (by simp)))
  · intro w w' u' v v' hw hw'
    exact h.eraser w w' u' v v' (eq_some_of_update hw (hother (by simp) (by simp) (by simp)))
      (eq_some_of_update hw' (hother (by simp) (by simp) (by simp)))
  · intro w u' v hw
    obtain ⟨j, hj⟩ := h.origin w u' v
      (hw.imp (fun hw => eq_some_of_update hw (hother (by simp) (by simp) (by simp)))
        fun hw => eq_some_of_update hw (hother (by simp) (by simp) (by simp)))
    exact ⟨j, update_eq_some hj (hkept (by simp))⟩
  · intro j u' v w hj
    exact (h.taker j u' v w (eq_some_of_update hj (hother (by simp) (by simp) (by simp)))).imp
      (fun hw => update_eq_some hw (hkept (by simp)))
      fun hw => update_eq_some hw (hkept (by simp))

/-- The calls once the reply in an entry, if there is one, has met its fate. -/
def Settles (s : ReplyDispatcher U T) (u : U) (e : ℕ) (fate : Fate)
    (calls : ℕ → Option (ReplyCall U T)) : Prop :=
  ∀ k, (calls k = s.calls k ∧ ∀ v, s.data e ≠ .reply k v) ∨
    ∃ v, s.data e = .reply k v ∧ s.calls k = some (.set u v .kept) ∧
      calls k = some (.set u v fate)

/-- The reply in an entry meets its fate. -/
theorem settles_setFate {u : U} {e j : ℕ} {v : T} (hj : s.calls j = some (.set u v .kept))
    (hdata : s.data e = .reply j v) (fate : Fate) :
    s.Settles u e fate (setFate s.calls j fate) := by
  intro k
  rw [setFate, hj]
  dsimp only
  rw [Function.update_apply]
  split_ifs with hk
  · exact .inr ⟨v, by rw [hk, hdata], by rw [hk, hj], rfl⟩
  · refine .inl ⟨rfl, fun v' hv' => hk ?_⟩
    rw [hdata] at hv'
    cases hv'
    rfl

/-- Where there is no reply, none meets its fate. -/
theorem settles_of_ne_reply {u : U} {e : ℕ} (hdata : ∀ i v, s.data e ≠ .reply i v) (fate : Fate) :
    s.Settles u e fate s.calls := fun k => .inl ⟨rfl, fun v => hdata k v⟩

theorem Inv.settles_setFate (h : s.Inv) {u : U} {e j : ℕ} {v : T} (hkey : s.keys e = some u)
    (hdata : s.data e = .reply j v) (fate : Fate) :
    s.Settles u e fate (setFate s.calls j fate) :=
  ReplyDispatcher.settles_setFate (h.reply u e j v hkey hdata) hdata fate

theorem settles_of_empty {u : U} {e : ℕ} (hdata : s.data e = .empty) (fate : Fate) :
    s.Settles u e fate s.calls :=
  settles_of_ne_reply (by simp [hdata]) fate

namespace Settles

variable {u : U} {e : ℕ} {fate : Fate} {calls : ℕ → Option (ReplyCall U T)} {k : ℕ}

/-- A call that has not written a reply is not concerned. -/
theorem of_ne_set (hc : s.Settles u e fate calls) {c : ReplyCall U T} (hk : calls k = some c)
    (hne : ∀ u v f, c ≠ .set u v f) : s.calls k = some c := by
  obtain ⟨hsame, -⟩ | ⟨v, -, -, hset⟩ := hc k
  · rw [← hsame, hk]
  · rw [hk] at hset
    cases hset
    exact absurd rfl (hne u v fate)

theorem ne_set (hc : s.Settles u e fate calls) {c : ReplyCall U T} (hk : s.calls k = some c)
    (hne : ∀ u v f, c ≠ .set u v f) : calls k = some c := by
  obtain ⟨hsame, -⟩ | ⟨v, -, hkept, -⟩ := hc k
  · rw [hsame, hk]
  · rw [hk] at hkept
    cases hkept
    exact absurd rfl (hne u v .kept)

/-- Neither is a call whose reply is in another entry. -/
theorem kept (hc : s.Settles u e fate calls) {u' : U} {v : T}
    (hk : s.calls k = some (.set u' v .kept)) (hne : s.data e ≠ .reply k v) :
    calls k = some (.set u' v .kept) := by
  obtain ⟨hsame, -⟩ | ⟨v', hdata, hkept, -⟩ := hc k
  · rw [hsame, hk]
  · rw [hk] at hkept
    cases hkept
    exact absurd hdata hne

/-- A reply that is kept afterwards is in another entry. -/
theorem of_kept (hc : s.Settles u e fate calls) (hfate : fate ≠ .kept) {u' : U} {v : T}
    (hk : calls k = some (.set u' v .kept)) :
    s.calls k = some (.set u' v .kept) ∧ ∀ v', s.data e ≠ .reply k v' := by
  obtain ⟨hsame, hother⟩ | ⟨v', -, -, hset⟩ := hc k
  · exact ⟨by rw [← hsame, hk], hother⟩
  · rw [hk] at hset
    cases hset
    exact absurd rfl hfate

/-- A reply that was not kept has met its fate already. -/
theorem of_not_kept (hc : s.Settles u e fate calls) {u' : U} {v : T} {f : Fate}
    (hk : s.calls k = some (.set u' v f)) (hne : f ≠ .kept) : calls k = some (.set u' v f) := by
  obtain ⟨hsame, -⟩ | ⟨v', -, hkept, -⟩ := hc k
  · rw [hsame, hk]
  · rw [hk] at hkept
    cases hkept
    exact absurd rfl hne

end Settles

/-- A reply of another entry is not the one in the given entry. -/
theorem Inv.reply_ne (h : s.Inv) {u u' : U} {e e' k : ℕ} {v : T} (hkey : s.keys e = some u)
    (htable : s.table u = some e) (hkey' : s.keys e' = some u') (hne : e' ≠ e)
    (hdata : s.data e' = .reply k v) : s.data e ≠ .reply k v := by
  intro hsame
  have hk := h.reply u e k v hkey hsame
  rw [h.reply u' e' k v hkey' hdata] at hk
  cases hk
  rw [h.attached u e' hkey' (by rw [hdata]; rfl)] at htable
  exact hne (Option.some.inj htable)

/-- A reply that is kept in another entry is there when the given entry has been written. -/
theorem Inv.kept_update (h : s.Inv) {u : U} {e k : ℕ} {v : T}
    (hk : s.calls k = some (.set u v .kept)) (hother : ∀ v', s.data e ≠ .reply k v') (x : Slot T) :
    (s.table u).map (Function.update s.data e x) = some (.reply k v) := by
  obtain ⟨e', he', hdata⟩ := Option.map_eq_some_iff.mp (h.kept k u v hk)
  have hne : e' ≠ e := by
    rintro rfl
    exact hother v hdata
  rw [he', Option.map_some, Function.update_of_ne hne, hdata]

/-- What is to be erased is not an entry whose reply is there. -/
theorem Inv.erasing_update (h : s.Inv) {u : U} {e w : ℕ} {v : T}
    (hw : s.calls w = some (.taken u v)) (hfresh : (s.data e).isMovedFrom = false) (x : Slot T) :
    (s.table u).any (fun e' => (Function.update s.data e x e').isMovedFrom) = true := by
  obtain ⟨e', he', hmoved⟩ := (Option.any_eq_true _ _).mp (h.erasing w u v hw)
  have hne : e' ≠ e := by
    rintro rfl
    rw [hfresh] at hmoved
    cases hmoved
  rw [he', Option.any_some, Function.update_of_ne hne, hmoved]

/-- **`set_reply` writes its entry**, and the reply that was there is lost. -/
theorem Inv.store (h : s.Inv) {i : ℕ} {u : U} {v : T} {e : ℕ}
    {calls : ℕ → Option (ReplyCall U T)} (hi : s.calls i = some (.setting u v e))
    (hfresh : (s.data e).isMovedFrom = false) (hc : s.Settles u e .overwritten calls) :
    ({ s with
      data := Function.update s.data e (.reply i v)
      calls := Function.update calls i (some (.set u v .kept)) } : ReplyDispatcher U T).Inv := by
  have hkey := h.setting i u v e hi
  have htable := h.attached u e hkey hfresh
  have hcalls : calls i = some (.setting u v e) := hc.ne_set hi (by simp)
  have hold : ∀ {k c}, Function.update calls i (some (.set u v .kept)) k = some c →
      (∀ u v f, c ≠ .set u v f) → s.calls k = some c :=
    fun hk hne => hc.of_ne_set (eq_some_of_update hk (hne u v .kept)) hne
  refine ⟨h.tabled, ?_, ?_, ?_, ?_, ?_, ?_, ?_, ?_, ?_⟩ <;> dsimp only
  · intro u' e' hkey' hdata
    by_cases he : e' = e
    · subst he
      rw [hkey] at hkey'
      cases hkey'
      exact htable
    · rw [Function.update_of_ne he] at hdata
      exact h.attached u' e' hkey' hdata
  · exact fun k u' v' e' hk => h.setting k u' v' e' (hold hk (by simp))
  · exact fun k u' e' hk => h.waiting k u' e' (hold hk (by simp))
  · intro u' e' k v' hkey' hdata
    by_cases he : e' = e
    · subst he
      rw [hkey] at hkey'
      rw [Function.update_self] at hdata
      cases hkey'
      cases hdata
      exact Function.update_self ..
    · rw [Function.update_of_ne he] at hdata
      have hk := hc.kept (h.reply u' e' k v' hkey' hdata)
        (h.reply_ne hkey htable hkey' he hdata)
      exact update_eq_some hk (by simp [hcalls])
  · intro k u' v' hk
    by_cases hki : k = i
    · rw [hki, Function.update_self] at hk
      cases hk
      rw [hki, htable, Option.map_some, Function.update_self]
    · rw [Function.update_of_ne hki] at hk
      obtain ⟨hk, hother⟩ := hc.of_kept (by simp) hk
      exact h.kept_update hk hother _
  · exact fun w u' v' hw => h.erasing_update (hold hw (by simp)) hfresh _
  · exact fun w w' u' v' v'' hw hw' =>
      h.eraser w w' u' v' v'' (hold hw (by simp)) (hold hw' (by simp))
  · intro w u' v' hw
    obtain ⟨k, hk⟩ := h.origin w u' v'
      (hw.imp (fun hw => hold hw (by simp)) fun hw => hold hw (by simp))
    exact ⟨k, update_eq_some (hc.of_not_kept hk (by simp)) (by simp [hcalls])⟩
  · intro k u' v' w hk
    have hk : s.calls k = some (.set u' v' (.takenBy w)) := by
      have hk := eq_some_of_update hk (by simp)
      obtain ⟨hsame, -⟩ | ⟨v'', -, -, hset⟩ := hc k
      · rw [← hsame, hk]
      · rw [hk] at hset
        cases hset
    exact (h.taker k u' v' w hk).imp
      (fun hw => update_eq_some (hc.ne_set hw (by simp)) (by simp [hcalls]))
      fun hw => update_eq_some (hc.ne_set hw (by simp)) (by simp [hcalls])

/-- **`wait_and_get` moves a reply out.** -/
theorem Inv.take (h : s.Inv) {w j : ℕ} {u : U} {v x : T} {e : ℕ}
    {calls : ℕ → Option (ReplyCall U T)} (hw : s.calls w = some (.waiting u e))
    (hdata : s.data e = .reply j v) (hc : s.Settles u e (.takenBy w) calls) :
    ({ s with
      data := Function.update s.data e (.movedFrom x)
      calls := Function.update calls w (some (.taken u v)) } : ReplyDispatcher U T).Inv := by
  have hkey := h.waiting w u e hw
  have hfresh : (s.data e).isMovedFrom = false := by rw [hdata]; rfl
  have htable := h.attached u e hkey hfresh
  -- no other call is to erase the uuid
  have halone : ∀ {k v'}, s.calls k ≠ some (.taken u v') := by
    intro k v' hk
    have hmoved := h.erasing k u v' hk
    rw [htable, Option.any_some, hfresh] at hmoved
    cases hmoved
  have hcalls : calls w = some (.waiting u e) := hc.ne_set hw (by simp)
  have hold : ∀ {k c}, Function.update calls w (some (.taken u v)) k = some c →
      (∀ u v f, c ≠ .set u v f) → c ≠ .taken u v → s.calls k = some c :=
    fun hk hne htaken => hc.of_ne_set (eq_some_of_update hk htaken) hne
  refine ⟨h.tabled, ?_, ?_, ?_, ?_, ?_, ?_, ?_, ?_, ?_⟩ <;> dsimp only
  · intro u' e' hkey' hdata'
    by_cases he : e' = e
    · rw [he, Function.update_self] at hdata'
      cases hdata'
    · rw [Function.update_of_ne he] at hdata'
      exact h.attached u' e' hkey' hdata'
  · exact fun k u' v' e' hk => h.setting k u' v' e' (hold hk (by simp) (by simp))
  · exact fun k u' e' hk => h.waiting k u' e' (hold hk (by simp) (by simp))
  · intro u' e' k v' hkey' hdata'
    by_cases he : e' = e
    · rw [he, Function.update_self] at hdata'
      cases hdata'
    · rw [Function.update_of_ne he] at hdata'
      have hk := hc.kept (h.reply u' e' k v' hkey' hdata')
        (h.reply_ne hkey htable hkey' he hdata')
      exact update_eq_some hk (by simp [hcalls])
  · intro k u' v' hk
    obtain ⟨hk, hother⟩ := hc.of_kept (by simp) (eq_some_of_update hk (by simp))
    exact h.kept_update hk hother _
  · intro k u' v' hk
    by_cases hkw : k = w
    · rw [hkw, Function.update_self] at hk
      cases hk
      rw [htable, Option.any_some, Function.update_self]
      rfl
    · rw [Function.update_of_ne hkw] at hk
      exact h.erasing_update (hc.of_ne_set hk (by simp)) hfresh _
  · intro k k' u' v' v'' hk hk'
    rw [Function.update_apply] at hk hk'
    split_ifs at hk hk' with hkw hkw' hkw'
    · rw [hkw, hkw']
    · cases hk
      exact absurd (hc.of_ne_set hk' (by simp)) halone
    · cases hk'
      exact absurd (hc.of_ne_set hk (by simp)) halone
    · exact h.eraser k k' u' v' v'' (hc.of_ne_set hk (by simp)) (hc.of_ne_set hk' (by simp))
  · intro k u' v' hk
    by_cases hkw : k = w
    · -- the reply that was in the entry has been taken by this call
      rw [hkw, Function.update_self] at hk
      obtain hk | hk := hk
      · cases hk
        obtain ⟨-, hother⟩ | ⟨v', hdata', hj, htaken⟩ := hc j
        · exact absurd hdata (hother v)
        · rw [hdata] at hdata'
          cases hdata'
          rw [hkw]
          exact ⟨j, update_eq_some htaken (by simp [hcalls])⟩
      · cases hk
    · rw [Function.update_of_ne hkw] at hk
      obtain ⟨i, hi⟩ := h.origin k u' v'
        (hk.imp (fun hk => hc.of_ne_set hk (by simp)) fun hk => hc.of_ne_set hk (by simp))
      exact ⟨i, update_eq_some (hc.of_not_kept hi (by simp)) (by simp [hcalls])⟩
  · intro k u' v' w' hk
    have hk := eq_some_of_update hk (by simp)
    obtain ⟨hsame, -⟩ | ⟨v'', hdata', -, htaken⟩ := hc k
    · rw [hsame] at hk
      exact (h.taker k u' v' w' hk).imp
        (fun hw => update_eq_some (hc.ne_set hw (by simp)) (by simp [hcalls]))
        fun hw => update_eq_some (hc.ne_set hw (by simp)) (by simp [hcalls])
    · rw [htaken] at hk
      rw [hdata] at hdata'
      cases hdata'
      cases hk
      exact .inl (Function.update_self ..)

/-- **`wait_and_get` erases its uuid**, under which there is nothing left to take. -/
theorem Inv.erase [DecidableEq U] (h : s.Inv) {w : ℕ} {u : U} {v : T}
    (hw : s.calls w = some (.taken u v)) :
    ({ s with
      table := Function.update s.table u none
      calls := Function.update s.calls w (some (.returned u (some v))) } :
        ReplyDispatcher U T).Inv := by
  obtain ⟨e, htable, hmoved⟩ := (Option.any_eq_true _ _).mp (h.erasing w u v hw)
  refine ⟨?_, ?_, ?_, ?_, ?_, ?_, ?_, ?_, ?_, ?_⟩ <;> dsimp only
  · intro u' e' he'
    rw [Function.update_apply] at he'
    split_ifs at he'
    exact h.tabled u' e' he'
  · intro u' e' hkey' hdata'
    have he' := h.attached u' e' hkey' hdata'
    rw [Function.update_of_ne, he']
    rintro rfl
    rw [htable] at he'
    cases he'
    rw [hdata'] at hmoved
    cases hmoved
  · exact fun k u' v' e' hk => h.setting k u' v' e' (eq_some_of_update hk (by simp))
  · exact fun k u' e' hk => h.waiting k u' e' (eq_some_of_update hk (by simp))
  · intro u' e' k v' hkey' hdata'
    exact update_eq_some (h.reply u' e' k v' hkey' hdata') (by simp [hw])
  · intro k u' v' hk
    have hmap := h.kept k u' v' (eq_some_of_update hk (by simp))
    rw [Function.update_of_ne, hmap]
    rintro rfl
    rw [htable, Option.map_some, Option.some.injEq] at hmap
    rw [hmap] at hmoved
    cases hmoved
  · intro k u' v' hk
    have hany := h.erasing k u' v' (eq_some_of_update hk (by simp))
    rw [Function.update_of_ne, hany]
    rintro rfl
    obtain rfl := h.eraser k w u' v' v (eq_some_of_update hk (by simp)) hw
    rw [Function.update_self] at hk
    cases hk
  · exact fun k k' u' v' v'' hk hk' =>
      h.eraser k k' u' v' v'' (eq_some_of_update hk (by simp)) (eq_some_of_update hk' (by simp))
  · intro k u' v' hk
    obtain ⟨i, hi⟩ : ∃ i, s.calls i = some (.set u' v' (.takenBy k)) := by
      by_cases hkw : k = w
      · rw [hkw, Function.update_self] at hk
        obtain hk | hk := hk
        · cases hk
        · cases hk
          rw [hkw]
          exact h.origin w u v (.inl hw)
      · rw [Function.update_of_ne hkw] at hk
        exact h.origin k u' v' hk
    exact ⟨i, update_eq_some hi (by simp [hw])⟩
  · intro k u' v' w' hk
    have hw' := h.taker k u' v' w' (eq_some_of_update hk (by simp))
    by_cases hww : w' = w
    · rw [hww, hw] at hw'
      rw [hww, Function.update_self]
      obtain hw' | hw' := hw'
      · cases hw'
        exact .inr rfl
      · cases hw'
    · rwa [Function.update_of_ne hww]

end

/-- **Every step keeps the invariant**, if its call does not come too late. -/
theorem inv_step {a : ReplyAct U T} (h : s.Inv) (hok : s.NotTooLate a)
    (hs : s.step husk a = some s') : s'.Inv := by
  cases a with
  | setReply i u v address =>
    rw [step] at hs
    split at hs
    · next e s₁ hnew htry =>
      cases hs
      obtain ⟨h₁, hcalls, htable⟩ := h.tryEmplace htry
      refine h₁.setCall ?_ (h₁.tabled u e htable) (.inl ⟨v, rfl⟩)
      rw [hcalls, hnew]
      rintro c ⟨⟩
    · cases hs
  | store i =>
    rw [step] at hs
    split at hs
    · next u v e hi =>
      cases hs
      have hfresh := hok u v e hi
      rw [storeReply]
      cases hdata : s.data e with
      | empty => exact h.store hi hfresh (settles_of_empty hdata _)
      | reply j v' => exact h.store hi hfresh (h.settles_setFate (h.setting i u v e hi) hdata _)
      | movedFrom x =>
        rw [hdata] at hfresh
        cases hfresh
    · cases hs
  | waitAndGet w u address =>
    rw [step] at hs
    split at hs
    · next e s₁ hnew htry =>
      cases hs
      obtain ⟨h₁, hcalls, htable⟩ := h.tryEmplace htry
      refine h₁.setCall ?_ (h₁.tabled u e htable) (.inr (.inl rfl))
      rw [hcalls, hnew]
      rintro c ⟨⟩
    · cases hs
  | read w =>
    rw [step] at hs
    split at hs
    · next u e hw =>
      cases hs
      have hfresh := hok u e hw
      have hkey := h.waiting w u e hw
      rw [readReply]
      cases hdata : s.data e with
      | empty =>
        refine h.setCall ?_ hkey (.inr (.inr rfl))
        rintro c hc
        rw [hw] at hc
        cases hc
        exact ⟨u, e, rfl⟩
      | reply j v => exact h.take hw hdata (h.settles_setFate hkey hdata _)
      | movedFrom x =>
        rw [hdata] at hfresh
        cases hfresh
    · cases hs
  | erase w =>
    rw [step] at hs
    split at hs
    · next u v hw =>
      cases hs
      exact h.erase hw
    · cases hs

end ReplyDispatcher

end DetectBase
