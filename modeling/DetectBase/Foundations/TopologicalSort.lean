import Mathlib.Data.Fintype.Card
import Mathlib.Data.List.Count
import Mathlib.Data.List.Nodup
import Mathlib.Data.Set.Finite.List
import Mathlib.Logic.Function.Basic
import Mathlib.Logic.Relation
import Mathlib.Order.WellFounded

/-!
# Topological sort by counting edges

The vertices of a finite graph, put in an order in which every edge goes forward: each vertex has a
counter of the edges that come into it, the vertices whose counter is zero wait in a queue, and the
vertex at the head of the queue goes to the end of the order while the counters of its successors
go down by one. The lists of vertices and of successors are walked in any order, so that the
results hold for a graph that is kept in hash maps.

The loop stops after at most one turn for each vertex (`DetectBase.TopoSort.queue_sort`). What it
puts in order are the vertices that no cycle leads to (`DetectBase.TopoSort.mem_sort_iff`), each of
them once and behind all of its predecessors; so the order is complete exactly when the graph has no
cycle (`DetectBase.TopoSort.length_sort_iff`).
-/

namespace DetectBase

variable {α : Type*} [DecidableEq α]

/-! ### The algorithm -/

/-- The state of the loop: the counters, the queue and the order so far. -/
structure TopoSort (α : Type*) where
  /-- How many edges come into a vertex from vertices that are not in the order yet. -/
  inDegree : α → ℤ
  /-- The vertices that wait for their turn. -/
  queue : List α
  /-- The vertices that had their turn. -/
  order : List α

namespace TopoSort

/-- **The inner loop**: the counter of each successor goes down, and a vertex whose counter becomes
zero joins the queue. -/
def release : List α → TopoSort α → TopoSort α
  | [], k => k
  | t :: ts, k =>
    let inDegree := Function.update k.inDegree t (k.inDegree t - 1)
    release ts { k with
      inDegree
      queue := if inDegree t = 0 then k.queue ++ [t] else k.queue }

/-- **The outer loop**, for at most as many turns as the fuel allows. -/
def loop (succ : α → List α) : ℕ → TopoSort α → TopoSort α
  | 0, k => k
  | fuel + 1, k =>
    match k.queue with
    | [] => k
    | v :: rest =>
      loop succ fuel (release (succ v) { k with queue := rest, order := k.order ++ [v] })

/-- The counters before the loop: each edge is counted where it ends. -/
def inDegrees (vertices : List α) (succ : α → List α) (v : α) : ℤ :=
  ((vertices.flatMap succ).count v : ℕ)

/-- The state before the loop, with the vertices put in the queue in the order of a walk of their
own. -/
def start (walk vertices : List α) (succ : α → List α) : TopoSort α where
  inDegree := inDegrees vertices succ
  queue := walk.filter fun v => inDegrees vertices succ v = 0
  order := []

/-- **The order of the vertices.** -/
def sort (walk vertices : List α) (succ : α → List α) : List α :=
  (loop succ walk.length (start walk vertices succ)).order

/-! ### One turn -/

@[simp] theorem order_release : ∀ (ts : List α) (k : TopoSort α), (release ts k).order = k.order
  | [], _ => rfl
  | _ :: ts, _ => order_release ts _

theorem inDegree_release (v : α) : ∀ (ts : List α) (k : TopoSort α),
    (release ts k).inDegree v = k.inDegree v - ts.count v
  | [], k => by simp [release]
  | t :: ts, k => by
    rw [release, inDegree_release v ts, List.count_cons]
    rcases eq_or_ne v t with rfl | hne
    · simp only [Function.update_self, beq_self_eq_true, if_true]
      push_cast
      omega
    · simp [Function.update_of_ne hne, hne.symm]

/-- **Who joins the queue**: the successors whose last open edge has gone, each of them once. -/
theorem exists_queue_release : ∀ (ts : List α) (k : TopoSort α),
    (∀ v ∈ ts, (ts.count v : ℤ) ≤ k.inDegree v) →
    ∃ joining, (release ts k).queue = k.queue ++ joining ∧ joining.Nodup ∧
      ∀ v, v ∈ joining ↔ v ∈ ts ∧ k.inDegree v = ts.count v
  | [], k, _ => ⟨[], by simp [release], List.nodup_nil, by simp⟩
  | t :: ts, k, hle => by
    have hcount : ∀ v, ((t :: ts).count v : ℤ) = ts.count v + if v = t then 1 else 0 := by
      intro v
      rcases eq_or_ne v t with rfl | hne
      · simp
      · simp [hne, hne.symm]
    have hdegree : ∀ v, Function.update k.inDegree t (k.inDegree t - 1) v =
        k.inDegree v - if v = t then 1 else 0 := by
      intro v
      rcases eq_or_ne v t with rfl | hne
      · simp
      · simp [hne]
    have hrest : ∀ v ∈ ts,
        (ts.count v : ℤ) ≤ Function.update k.inDegree t (k.inDegree t - 1) v := by
      intro v hv
      have h := hle v (List.mem_cons_of_mem t hv)
      rw [hcount] at h
      rw [hdegree]
      omega
    obtain ⟨joining, hqueue, hnodup, hmem⟩ := exists_queue_release ts
      { k with
        inDegree := Function.update k.inDegree t (k.inDegree t - 1)
        queue := if Function.update k.inDegree t (k.inDegree t - 1) t = 0 then k.queue ++ [t]
          else k.queue } hrest
    replace hmem : ∀ v, v ∈ joining ↔
        v ∈ ts ∧ k.inDegree v - (if v = t then 1 else 0) = ts.count v := fun v => by
      rw [hmem, ← hdegree]
    rw [release]
    by_cases hzero : k.inDegree t - 1 = 0
    · -- The counter is used up, so that `t` is not met again.
      have hnotMem : t ∉ ts := by
        intro ht
        have h1 := hrest t ht
        have h2 := List.count_pos_iff.mpr ht
        rw [Function.update_self, hzero] at h1
        omega
      refine ⟨t :: joining, ?_, List.nodup_cons.mpr ⟨fun ht => hnotMem ((hmem t).mp ht).1, hnodup⟩,
        fun v => ?_⟩
      · rw [hqueue, Function.update_self, if_pos hzero, List.append_assoc]
        rfl
      · rw [List.mem_cons, hmem, hcount, List.mem_cons]
        rcases eq_or_ne v t with rfl | hne
        · simp only [true_or, ↓reduceIte, true_and, true_iff,
            List.count_eq_zero_of_not_mem hnotMem]
          omega
        · simp [hne]
    · refine ⟨joining, ?_, hnodup, fun v => ?_⟩
      · rw [hqueue, Function.update_self, if_neg hzero]
      · rw [hmem, hcount, List.mem_cons]
        rcases eq_or_ne v t with rfl | hne
        · simp only [↓reduceIte, true_or, true_and]
          constructor
          · rintro ⟨-, h⟩
            omega
          · intro h
            refine ⟨?_, by omega⟩
            by_contra hnotMem
            rw [List.count_eq_zero_of_not_mem hnotMem] at h
            omega
        · simp [hne]

/-! ### The invariant of the loop -/

variable {vertices walk : List α} {succ : α → List α}

/-- **What holds between two turns.** -/
structure Inv (vertices : List α) (succ : α → List α) (k : TopoSort α) : Prop where
  /-- No vertex is there twice. -/
  nodup : (k.order ++ k.queue).Nodup
  /-- A counter tells how many edges come in from vertices that are not in the order. -/
  inDegree : ∀ v, k.inDegree v =
    (((vertices.filter fun u => u ∉ k.order).flatMap succ).count v : ℕ)
  /-- The vertices in the order and in the queue are those whose counter is zero. -/
  mem : ∀ v, v ∈ k.order ++ k.queue ↔ v ∈ vertices ∧ k.inDegree v = 0
  /-- A vertex in the order stands behind all of its predecessors. -/
  forward : ∀ before v after, k.order = before ++ v :: after →
    ∀ u ∈ vertices, v ∈ succ u → u ∈ before

theorem inv_start (hvertices : vertices.Nodup) (hwalk : walk.Perm vertices) :
    Inv vertices succ (start walk vertices succ) where
  nodup := by
    have hnodup : walk.Nodup := hwalk.nodup_iff.mpr hvertices
    simpa [start] using hnodup.filter _
  inDegree v := by simp [start, inDegrees]
  mem v := by simp [start, hwalk.mem_iff]
  forward before v after h := by simp [start] at h

/-- The vertices that are not in the order, when the next one goes there. -/
theorem perm_filter_notMem (hvertices : vertices.Nodup) {order : List α} {v : α}
    (hv : v ∈ vertices) (hnotMem : v ∉ order) :
    (vertices.filter fun u => u ∉ order).Perm
      (v :: vertices.filter fun u => u ∉ order ++ [v]) := by
  refine (List.perm_ext_iff_of_nodup (hvertices.filter _)
    (List.nodup_cons.mpr ⟨by simp, hvertices.filter _⟩)).mpr fun u => ?_
  rcases eq_or_ne u v with rfl | hne
  · simp [hv, hnotMem]
  · simp [hne]

/-- **A turn keeps the invariant.** -/
theorem Inv.turn (hvertices : vertices.Nodup) {k : TopoSort α} (h : Inv vertices succ k)
    (hclosed : ∀ u ∈ vertices, ∀ v ∈ succ u, v ∈ vertices)
    {v : α} {rest : List α} (hqueue : k.queue = v :: rest) :
    Inv vertices succ
      (release (succ v) { k with queue := rest, order := k.order ++ [v] }) := by
  have hall : k.order ++ k.queue = (k.order ++ [v]) ++ rest := by
    rw [hqueue, List.append_assoc, List.singleton_append]
  obtain ⟨hv, hzero⟩ := (h.mem v).mp (by simp [hqueue])
  have hnotMem : v ∉ k.order := by
    intro hmem
    exact List.disjoint_of_nodup_append h.nodup hmem (by simp [hqueue])
  -- What is counted before the turn is what is counted after it, and the edges from `v`.
  have hsplit : ∀ w, k.inDegree w = (succ v).count w +
      (((vertices.filter fun u => u ∉ k.order ++ [v]).flatMap succ).count w : ℕ) := by
    intro w
    rw [h.inDegree, ((perm_filter_notMem hvertices hv hnotMem).flatMap_right succ).count_eq,
      List.flatMap_cons, List.count_append]
    push_cast
    rfl
  obtain ⟨joining, hjoin, hnodup, hmem⟩ := exists_queue_release (succ v)
    { k with queue := rest, order := k.order ++ [v] } fun w _ => by
      have hw := hsplit w
      show ((succ v).count w : ℤ) ≤ k.inDegree w
      omega
  have hpos : ∀ w ∈ succ v, k.inDegree w ≠ 0 := by
    intro w hw
    have h1 := hsplit w
    have h2 := List.count_pos_iff.mpr hw
    omega
  constructor
  · rw [order_release, hjoin, ← List.append_assoc, ← hall]
    refine List.Nodup.append h.nodup hnodup fun w hw hw' => ?_
    exact hpos w ((hmem w).mp hw').1 ((h.mem w).mp hw).2
  · intro w
    rw [inDegree_release, order_release]
    show k.inDegree w - (succ v).count w =
      (((vertices.filter fun u => u ∉ k.order ++ [v]).flatMap succ).count w : ℕ)
    have hw := hsplit w
    omega
  · intro w
    rw [order_release, hjoin, ← List.append_assoc, ← hall, List.mem_append, h.mem, hmem,
      inDegree_release]
    show w ∈ vertices ∧ k.inDegree w = 0 ∨ w ∈ succ v ∧ k.inDegree w = (succ v).count w ↔
      w ∈ vertices ∧ k.inDegree w - (succ v).count w = 0
    constructor
    · rintro (⟨hw, h0⟩ | ⟨hw, h0⟩)
      · have hnot : w ∉ succ v := fun hw' => hpos w hw' h0
        rw [List.count_eq_zero_of_not_mem hnot, h0]
        exact ⟨hw, rfl⟩
      · exact ⟨hclosed v hv w hw, by omega⟩
    · rintro ⟨hw, h0⟩
      by_cases hmem : w ∈ succ v
      · exact Or.inr ⟨hmem, by omega⟩
      · rw [List.count_eq_zero_of_not_mem hmem] at h0
        exact Or.inl ⟨hw, by simpa using h0⟩
  · intro before w after heq u hu hedge
    rw [order_release] at heq
    rcases List.eq_nil_or_concat after with rfl | ⟨after, z, rfl⟩
    · obtain ⟨rfl, hlast⟩ := List.append_inj' heq rfl
      obtain rfl : v = w := by simpa using hlast
      by_contra hnot
      have hcount := h.inDegree v
      rw [hzero] at hcount
      have : v ∉ (vertices.filter fun u => u ∉ k.order).flatMap succ := by
        rw [← List.count_eq_zero]
        omega
      exact this (List.mem_flatMap.mpr ⟨u, List.mem_filter.mpr ⟨hu, by simpa using hnot⟩, hedge⟩)
    · have heq' : k.order ++ [v] = (before ++ w :: after) ++ [z] := by simpa using heq
      exact h.forward before w after (List.append_inj' heq' rfl).1 u hu hedge

/-- There are no more vertices in the order and the queue than in the graph. -/
theorem Inv.length_le {k : TopoSort α} (h : Inv vertices succ k) :
    k.order.length + k.queue.length ≤ vertices.length := by
  rw [← List.length_append]
  exact (List.subperm_of_subset h.nodup fun v hv => ((h.mem v).mp hv).1).length_le

/-- **The loop keeps the invariant**, for any fuel. -/
theorem Inv.loop (hvertices : vertices.Nodup)
    (hclosed : ∀ u ∈ vertices, ∀ v ∈ succ u, v ∈ vertices) :
    ∀ (fuel : ℕ) {k : TopoSort α}, Inv vertices succ k → Inv vertices succ (loop succ fuel k)
  | 0, _, h => h
  | fuel + 1, k, h => by
    rw [TopoSort.loop]
    rcases hqueue : k.queue with _ | ⟨v, rest⟩
    · exact h
    · exact Inv.loop hvertices hclosed fuel (h.turn hvertices hclosed hqueue)

/-- **A turn for each vertex is enough** for the queue to be empty. -/
theorem queue_loop (hvertices : vertices.Nodup)
    (hclosed : ∀ u ∈ vertices, ∀ v ∈ succ u, v ∈ vertices) :
    ∀ (fuel : ℕ) {k : TopoSort α}, Inv vertices succ k → vertices.length ≤ k.order.length + fuel →
      (loop succ fuel k).queue = []
  | 0, k, h, hfuel => by
    have hle := h.length_le
    exact List.eq_nil_of_length_eq_zero (by rw [TopoSort.loop]; omega)
  | fuel + 1, k, h, hfuel => by
    rw [TopoSort.loop]
    rcases hqueue : k.queue with _ | ⟨v, rest⟩
    · exact hqueue
    · refine queue_loop hvertices hclosed fuel (h.turn hvertices hclosed hqueue) ?_
      rw [order_release]
      simp only [List.length_append, List.length_singleton]
      omega

/-! ### The order -/

/-- There is an edge between two vertices of the graph. -/
def Edge (vertices : List α) (succ : α → List α) (u v : α) : Prop := u ∈ vertices ∧ v ∈ succ u

section Order

variable (hvertices : vertices.Nodup) (hwalk : walk.Perm vertices)
  (hclosed : ∀ u ∈ vertices, ∀ v ∈ succ u, v ∈ vertices)

include hvertices hwalk hclosed

theorem inv_sort :
    Inv vertices succ (loop succ walk.length (start walk vertices succ)) :=
  Inv.loop hvertices hclosed _ (inv_start hvertices hwalk)

/-- **The loop has come to its end.** -/
theorem queue_sort : (loop succ walk.length (start walk vertices succ)).queue = [] :=
  queue_loop hvertices hclosed _ (inv_start hvertices hwalk)
    (hwalk.length_eq ▸ Nat.le_add_left _ _)

theorem nodup_sort : (sort walk vertices succ).Nodup :=
  (List.nodup_append.mp (inv_sort hvertices hwalk hclosed).nodup).1

theorem mem_of_mem_sort {v : α} (hv : v ∈ sort walk vertices succ) : v ∈ vertices :=
  (((inv_sort hvertices hwalk hclosed).mem v).mp (List.mem_append_left _ hv)).1

/-- **Each vertex stands behind all of its predecessors.** -/
theorem forward_sort {before after : List α} {v : α}
    (h : sort walk vertices succ = before ++ v :: after) {u : α} (hu : u ∈ vertices)
    (hedge : v ∈ succ u) : u ∈ before :=
  (inv_sort hvertices hwalk hclosed).forward before v after h u hu hedge

/-- A vertex is in the order as soon as its predecessors are. -/
theorem mem_sort_of_predecessors {v : α} (hv : v ∈ vertices)
    (h : ∀ u ∈ vertices, v ∈ succ u → u ∈ sort walk vertices succ) :
    v ∈ sort walk vertices succ := by
  have hinv := inv_sort hvertices hwalk hclosed
  have hmem := (hinv.mem v).mpr ⟨hv, by
    rw [hinv.inDegree, Int.natCast_eq_zero, List.count_eq_zero]
    rintro hv'
    obtain ⟨u, hu, hedge⟩ := List.mem_flatMap.mp hv'
    obtain ⟨hu, hnot⟩ := List.mem_filter.mp hu
    exact of_decide_eq_true hnot (h u hu hedge)⟩
  rwa [queue_sort hvertices hwalk hclosed, List.append_nil] at hmem

/-- An edge goes from an earlier place of the order to a later one. -/
theorem idxOf_lt_of_edge {u v : α} (hedge : Edge vertices succ u v)
    (hv : v ∈ sort walk vertices succ) : u ∈ sort walk vertices succ ∧
      (sort walk vertices succ).idxOf u < (sort walk vertices succ).idxOf v := by
  obtain ⟨before, after, h⟩ := List.append_of_mem hv
  have hu := forward_sort hvertices hwalk hclosed h hedge.1 hedge.2
  have hnodup := nodup_sort hvertices hwalk hclosed
  rw [h] at hnodup ⊢
  have hv : v ∉ before := fun hv =>
    List.disjoint_of_nodup_append hnodup hv List.mem_cons_self
  refine ⟨List.mem_append_left _ hu, ?_⟩
  rw [List.idxOf_append_of_mem hu, List.idxOf_append_of_notMem hv, List.idxOf_cons_self,
    Nat.add_zero]
  exact List.idxOf_lt_length_iff.mpr hu

/-- The same for a path. -/
theorem idxOf_lt_of_path {u v : α} (hpath : Relation.TransGen (Edge vertices succ) u v)
    (hv : v ∈ sort walk vertices succ) : u ∈ sort walk vertices succ ∧
      (sort walk vertices succ).idxOf u < (sort walk vertices succ).idxOf v := by
  induction hpath with
  | single hedge => exact idxOf_lt_of_edge hvertices hwalk hclosed hedge hv
  | tail _ hedge ih =>
    obtain ⟨hmem, hlt⟩ := idxOf_lt_of_edge hvertices hwalk hclosed hedge hv
    obtain ⟨hmem', hlt'⟩ := ih hmem
    exact ⟨hmem', hlt'.trans hlt⟩

/-- No cycle leads to a vertex of the order. -/
theorem not_path_of_mem_sort {u v : α} (hv : v ∈ sort walk vertices succ)
    (hcycle : Relation.TransGen (Edge vertices succ) u u) :
    ¬Relation.ReflTransGen (Edge vertices succ) u v := by
  intro hpath
  have hu : u ∈ sort walk vertices succ := by
    rcases Relation.reflTransGen_iff_eq_or_transGen.mp hpath with rfl | hpath
    · exact hv
    · exact (idxOf_lt_of_path hvertices hwalk hclosed hpath hv).1
  exact lt_irrefl _ (idxOf_lt_of_path hvertices hwalk hclosed hcycle hu).2

/-- **The vertices of the order are those that no cycle leads to.** -/
theorem mem_sort_iff {v : α} : v ∈ sort walk vertices succ ↔
    v ∈ vertices ∧ ∀ u, Relation.TransGen (Edge vertices succ) u u →
      ¬Relation.ReflTransGen (Edge vertices succ) u v := by
  refine ⟨fun hv => ⟨mem_of_mem_sort hvertices hwalk hclosed hv,
    fun u => not_path_of_mem_sort hvertices hwalk hclosed hv⟩, ?_⟩
  rintro ⟨hv, hfree⟩
  by_contra hnot
  -- The vertices that are left over although no cycle leads to them.
  let Left : Set α := {w | w ∈ vertices ∧ w ∉ sort walk vertices succ ∧
    ∀ u, Relation.TransGen (Edge vertices succ) u u →
      ¬Relation.ReflTransGen (Edge vertices succ) u w}
  have : Finite Left := (vertices.finite_toSet.subset fun w hw => hw.1).to_subtype
  let before : Left → Left → Prop := fun a b => Relation.TransGen (Edge vertices succ) a b
  have : IsTrans Left before := ⟨fun _ _ _ => Relation.TransGen.trans⟩
  have : Std.Irrefl before := ⟨fun a ha => a.2.2.2 a ha Relation.ReflTransGen.refl⟩
  obtain ⟨w, -, hmin⟩ := (Finite.wellFounded_of_trans_of_irrefl before).has_min Set.univ
    ⟨⟨v, hv, hnot, hfree⟩, trivial⟩
  -- The first of them has all of its predecessors in the order.
  refine w.2.2.1 (mem_sort_of_predecessors hvertices hwalk hclosed w.2.1 fun u hu hedge => ?_)
  by_contra hu'
  refine hmin ⟨u, hu, hu', fun z hz hpath => ?_⟩ trivial (.single ⟨hu, hedge⟩)
  exact w.2.2.2 z hz (hpath.tail ⟨hu, hedge⟩)

/-- **The order is complete exactly when the graph has no cycle.** -/
theorem length_sort_iff : (sort walk vertices succ).length = vertices.length ↔
    ∀ u, ¬Relation.TransGen (Edge vertices succ) u u := by
  have hsubperm : (sort walk vertices succ).Subperm vertices :=
    List.subperm_of_subset (nodup_sort hvertices hwalk hclosed)
      fun v hv => mem_of_mem_sort hvertices hwalk hclosed hv
  constructor
  · intro hlength u hcycle
    have hu : u ∈ vertices := by
      obtain ⟨_, hedge, -⟩ := Relation.TransGen.head'_iff.mp hcycle
      exact hedge.1
    have hmem := (hsubperm.perm_of_length_le hlength.ge).mem_iff.mpr hu
    exact not_path_of_mem_sort hvertices hwalk hclosed hmem hcycle Relation.ReflTransGen.refl
  · intro hacyclic
    refine le_antisymm hsubperm.length_le
      (List.subperm_of_subset hvertices fun v hv => ?_).length_le
    exact (mem_sort_iff hvertices hwalk hclosed).mpr ⟨hv, fun u hu => absurd hu (hacyclic u)⟩

end Order

end TopoSort

end DetectBase
