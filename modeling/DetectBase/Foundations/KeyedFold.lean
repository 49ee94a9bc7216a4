import Mathlib.Data.List.Basic

/-!
# Loops that keep their keys apart

A loop goes over objects that each carry a key, and what it does to one object concerns nothing but
the part of the state that belongs to its key. Such a loop may be looked at one key at a time: for
the part that belongs to `k`, the objects with other keys could as well be left out
(`DetectBase.Keyed.view_foldl`).
-/

namespace DetectBase

variable {σ ο κ τ : Type*} {step : σ → ο → σ} {key : ο → κ} {view : κ → σ → τ}

/-- **The step keeps the keys apart**, where `view k` is what belongs to `k`. -/
structure Keyed (step : σ → ο → σ) (key : ο → κ) (view : κ → σ → τ) : Prop where
  /-- What belongs to other keys is left alone. -/
  other : ∀ s o k, key o ≠ k → view k (step s o) = view k s
  /-- What is made of the part that belongs to the object's key depends on that part only. -/
  own : ∀ s s' o, view (key o) s = view (key o) s' →
    view (key o) (step s o) = view (key o) (step s' o)

/-- A loop over objects with other keys changes nothing. -/
theorem Keyed.view_foldl_of_forall_ne (h : Keyed step key view) {k : κ} {l : List ο} {s : σ}
    (hl : ∀ o ∈ l, key o ≠ k) : view k (l.foldl step s) = view k s := by
  induction l generalizing s with
  | nil => rfl
  | cons o l ih =>
    rw [List.foldl_cons, ih fun o' ho' => hl o' (List.mem_cons_of_mem o ho')]
    exact h.other s o k (hl o List.mem_cons_self)

/-- **A loop with one object of the key** does to the part that belongs to it what the step does to
that object, from the state the loop starts in. -/
theorem Keyed.view_foldl (h : Keyed step key view) {o : ο} {pre post : List ο} {s : σ}
    (hpre : ∀ o' ∈ pre, key o' ≠ key o) (hpost : ∀ o' ∈ post, key o' ≠ key o) :
    view (key o) ((pre ++ o :: post).foldl step s) = view (key o) (step s o) := by
  rw [List.foldl_append, List.foldl_cons, h.view_foldl_of_forall_ne hpost]
  exact h.own _ _ o (h.view_foldl_of_forall_ne hpre)

end DetectBase
