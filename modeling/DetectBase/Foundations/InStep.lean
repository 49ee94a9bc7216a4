import Mathlib.Data.Multiset.AddSub
import Mathlib.Order.Lattice

/-!
# Two queues in step

Somebody sends out work and remembers, in a queue, what answers to expect; the answers come back in
another queue. Nothing but the order says which answer belongs to which expectation. This file
says when that is enough.

The tickets come from a linear order, and are handed out in ascending order. At any time the tickets
that are *awaited* are those that have been *delivered* together with those that are still
*pending*, in no particular order; both queues are ascending, and nothing pending comes before what
has been delivered (`DetectBase.InStep`). Three moves keep this up:

* `DetectBase.InStep.request` – a new ticket is handed out;
* `DetectBase.InStep.reply` – the least pending ticket is delivered;
* `DetectBase.InStep.consume` – the first of one queue is taken together with the first of the
  other. The two are then the same ticket, which is what it is all for.
-/

namespace DetectBase

variable {α : Type*} [LinearOrder α]

/-- **The two queues are in step.** -/
structure InStep (awaited delivered : List α) (pending : Multiset α) : Prop where
  awaited_sorted : awaited.Pairwise (· ≤ ·)
  delivered_sorted : delivered.Pairwise (· ≤ ·)
  le_pending : ∀ d ∈ delivered, ∀ p ∈ pending, d ≤ p
  /-- No ticket is lost or made up. -/
  conserved : (awaited : Multiset α) = delivered + pending

namespace InStep

theorem nil : InStep ([] : List α) [] 0 := ⟨.nil, .nil, nofun, rfl⟩

variable {awaited delivered : List α} {pending : Multiset α} {x : α}

theorem mem_awaited (h : InStep awaited delivered pending) :
    x ∈ awaited ↔ x ∈ delivered ∨ x ∈ pending := by
  rw [← Multiset.mem_coe, h.conserved, Multiset.mem_add, Multiset.mem_coe]

/-- A ticket that is not before any other is handed out. -/
theorem request (h : InStep awaited delivered pending) (hx : ∀ a ∈ awaited, a ≤ x) :
    InStep (awaited ++ [x]) delivered (x ::ₘ pending) where
  awaited_sorted := by
    refine List.pairwise_append.mpr ⟨h.awaited_sorted, List.pairwise_singleton _ _, ?_⟩
    intro a ha b hb
    rw [List.mem_singleton.mp hb]
    exact hx a ha
  delivered_sorted := h.delivered_sorted
  le_pending d hd p hp := by
    rcases Multiset.mem_cons.mp hp with rfl | hp
    · exact hx d (h.mem_awaited.mpr (Or.inl hd))
    · exact h.le_pending d hd p hp
  conserved := by
    rw [← Multiset.coe_add, h.conserved, ← Multiset.singleton_add, Multiset.coe_singleton,
      Multiset.add_assoc, Multiset.add_comm pending]

/-- The least pending ticket is delivered. -/
theorem reply (h : InStep awaited delivered (x ::ₘ pending)) (hx : ∀ p ∈ pending, x ≤ p) :
    InStep awaited (delivered ++ [x]) pending where
  awaited_sorted := h.awaited_sorted
  delivered_sorted := by
    refine List.pairwise_append.mpr ⟨h.delivered_sorted, List.pairwise_singleton _ _, ?_⟩
    intro d hd y hy
    rw [List.mem_singleton.mp hy]
    exact h.le_pending d hd x (Multiset.mem_cons_self x pending)
  le_pending d hd p hp := by
    rcases List.mem_append.mp hd with hd | hd
    · exact h.le_pending d hd p (Multiset.mem_cons_of_mem hp)
    · rw [List.mem_singleton.mp hd]
      exact hx p hp
  conserved := by
    rw [h.conserved, ← Multiset.coe_add, ← Multiset.singleton_add, Multiset.coe_singleton,
      Multiset.add_assoc]

/-- **The first of the awaited tickets is the first of the delivered ones**, and the two can be
taken away together. -/
theorem consume {a d : α} (h : InStep (a :: awaited) (d :: delivered) pending) :
    d = a ∧ InStep awaited delivered pending := by
  obtain ⟨ha, hawaited⟩ := List.pairwise_cons.mp h.awaited_sorted
  obtain ⟨hd, hdelivered⟩ := List.pairwise_cons.mp h.delivered_sorted
  -- each is the least of all tickets
  have hle : a ≤ d := by
    rcases List.mem_cons.mp (h.mem_awaited.mpr (Or.inl List.mem_cons_self)) with rfl | hmem
    · exact le_rfl
    · exact ha d hmem
  have hge : d ≤ a := by
    rcases h.mem_awaited.mp List.mem_cons_self with hmem | hmem
    · rcases List.mem_cons.mp hmem with rfl | hmem
      · exact le_rfl
      · exact hd a hmem
    · exact h.le_pending d List.mem_cons_self a hmem
  obtain rfl : d = a := le_antisymm hge hle
  refine ⟨rfl, hawaited, hdelivered,
    fun x hx p hp => h.le_pending x (List.mem_cons_of_mem d hx) p hp, ?_⟩
  have hcons := h.conserved
  rw [← Multiset.cons_coe, ← Multiset.cons_coe, Multiset.cons_add] at hcons
  exact (Multiset.cons_inj_right d).mp hcons

end InStep

end DetectBase
