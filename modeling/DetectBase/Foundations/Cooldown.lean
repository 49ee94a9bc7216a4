import Mathlib.Algebra.Order.Group.Int
import Mathlib.Data.List.Basic

/-!
# What is done again only after a while

A loop that wants to do something only now and then keeps the time of the last occasion, and does it
as soon as more than an interval has gone by. `DetectBase.Cooldown.fired` lists the occasions among
the times at which the loop asks.

They are more than the interval apart (`DetectBase.Cooldown.pairwise_fired`), and none is put off
for longer than the interval: at each time that the loop asks, the last occasion is not longer ago
than that (`DetectBase.Cooldown.exists_fired`). `DetectBase.Cooldown.Punctual` puts this together.
-/

namespace DetectBase.Cooldown

variable (interval : ℤ)

/-- More than the interval has gone by. -/
def due (last now : ℤ) : Bool := interval < now - last

/-- The time of the last occasion. -/
def next (last now : ℤ) : ℤ := if due interval last now then now else last

/-- The time of the last occasion after some times. -/
def lastOf (last : ℤ) (times : List ℤ) : ℤ := times.foldl (next interval) last

/-- **The occasions** among some times. -/
def fired : ℤ → List ℤ → List ℤ
  | _, [] => []
  | last, t :: times => if due interval last t then t :: fired t times else fired last times

variable {interval}

theorem due_iff {last now : ℤ} : due interval last now = true ↔ last + interval < now := by
  rw [due, decide_eq_true_eq]
  omega

theorem fired_append (last : ℤ) (s t : List ℤ) :
    fired interval last (s ++ t) =
      fired interval last s ++ fired interval (lastOf interval last s) t := by
  induction s generalizing last with
  | nil => rfl
  | cons x s ih =>
    rw [List.cons_append, fired, fired, lastOf, List.foldl_cons, next]
    split_ifs with h
    · rw [ih]
      rfl
    · rw [ih]
      rfl

theorem fired_concat (last : ℤ) (times : List ℤ) (t : ℤ) :
    fired interval last (times ++ [t]) = fired interval last times ++
      if due interval (lastOf interval last times) t then [t] else [] := by
  rw [fired_append]
  rfl

theorem lastOf_concat (last : ℤ) (times : List ℤ) (t : ℤ) :
    lastOf interval last (times ++ [t]) = next interval (lastOf interval last times) t :=
  List.foldl_concat _ _ _ _

theorem fired_sublist (last : ℤ) (times : List ℤ) : (fired interval last times).Sublist times := by
  induction times generalizing last with
  | nil => exact List.Sublist.refl _
  | cons t times ih =>
    rw [fired]
    split_ifs
    · exact (ih t).cons_cons t
    · exact (ih last).cons t

theorem lt_of_mem_fired (hinterval : 0 ≤ interval) {last f : ℤ} {times : List ℤ}
    (h : f ∈ fired interval last times) : last + interval < f := by
  induction times generalizing last with
  | nil => cases h
  | cons t times ih =>
    rw [fired] at h
    split_ifs at h with hdue
    · rw [due_iff] at hdue
      rcases List.mem_cons.mp h with rfl | h
      · exact hdue
      · have := ih h
        omega
    · exact ih h

/-- **Two occasions are more than the interval apart.** -/
theorem pairwise_fired (hinterval : 0 ≤ interval) (last : ℤ) (times : List ℤ) :
    (fired interval last times).Pairwise fun a b => a + interval < b := by
  induction times generalizing last with
  | nil => exact List.Pairwise.nil
  | cons t times ih =>
    rw [fired]
    split_ifs
    · exact List.Pairwise.cons (fun f hf => lt_of_mem_fired hinterval hf) (ih t)
    · exact ih last

/-- **No occasion is put off**: when the times do not go back, the last one is at each of them not
longer ago than the interval. -/
theorem exists_fired (hinterval : 0 ≤ interval) {last t : ℤ} {times : List ℤ}
    (hle : ∀ t ∈ times, last ≤ t) (hmono : times.Pairwise (· ≤ ·)) (ht : t ∈ times) :
    ∃ f ∈ last :: fired interval last times, f ≤ t ∧ t ≤ f + interval := by
  induction times generalizing last with
  | nil => cases ht
  | cons x times ih =>
    obtain ⟨hx, hmono⟩ := List.pairwise_cons.mp hmono
    rw [fired]
    split_ifs with hdue
    · rcases List.mem_cons.mp ht with rfl | ht
      · exact ⟨t, List.mem_cons_of_mem _ List.mem_cons_self, le_refl t, by omega⟩
      · obtain ⟨f, hf, hnear⟩ := ih hx hmono ht
        exact ⟨f, List.mem_cons_of_mem _ hf, hnear⟩
    · rcases List.mem_cons.mp ht with rfl | ht
      · rw [due_iff, not_lt] at hdue
        exact ⟨last, List.mem_cons_self, hle t List.mem_cons_self, hdue⟩
      · exact ih (fun t ht => hle t (List.mem_cons_of_mem _ ht)) hmono ht

/-- **Occasions that come neither too often nor too late** for the times at which they may come. -/
structure Punctual (interval last : ℤ) (times occasions : List ℤ) : Prop where
  /-- They come at some of the times, in order. -/
  sublist : occasions.Sublist times
  /-- They are more than the interval apart, and from the start. -/
  apart : (last :: occasions).Pairwise fun a b => a + interval < b
  /-- At each of the times one of them, or the start, is not longer ago than the interval. -/
  near : ∀ t ∈ times, ∃ f ∈ last :: occasions, f ≤ t ∧ t ≤ f + interval

/-- **The occasions of an interval are punctual.** -/
theorem punctual_fired (hinterval : 0 ≤ interval) {last : ℤ} {times : List ℤ}
    (hle : ∀ t ∈ times, last ≤ t) (hmono : times.Pairwise (· ≤ ·)) :
    Punctual interval last times (fired interval last times) where
  sublist := fired_sublist last times
  apart := List.Pairwise.cons (fun _ hf => lt_of_mem_fired hinterval hf)
    (pairwise_fired hinterval last times)
  near _ ht := exists_fired hinterval hle hmono ht

end DetectBase.Cooldown
