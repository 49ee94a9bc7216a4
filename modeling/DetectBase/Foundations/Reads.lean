import Mathlib.Data.List.Basic

/-!
# Readings

A computation in `Except` that reads something can throw. `DetectBase.Reads` says that it does not,
whatever it reads, and the lemmas below take that apart for computations that are put together from
others: in a row, in a loop, and for the elements of a list. They are for readings that do not
depend on each other's results, as those of the fields of a record do not.
-/

namespace DetectBase

variable {ε α β : Type}

/-- The reading does not throw. -/
def Reads (x : Except ε α) : Prop := ∃ a, x = .ok a

@[simp]
theorem reads_ok (a : α) : Reads (.ok a : Except ε α) := ⟨a, rfl⟩

@[simp]
theorem not_reads_error (e : ε) : ¬Reads (.error e : Except ε α) := by
  rintro ⟨a, ⟨⟩⟩

@[simp]
theorem reads_pure (a : α) : Reads (pure a : Except ε α) := ⟨a, rfl⟩

/-- The two halves of a reading that succeeds. -/
theorem exists_of_bind_eq_ok {x : Except ε α} {f : α → Except ε β} {b : β}
    (h : (x >>= f) = .ok b) : ∃ a, x = .ok a ∧ f a = .ok b := by
  cases x with
  | error e => cases h
  | ok a => exact ⟨a, rfl, h⟩

/-- Two readings in a row, when it does not matter to the second what the first has read. -/
theorem reads_bind_iff {x : Except ε α} {f : α → Except ε β} {P : Prop}
    (hf : ∀ a, Reads (f a) ↔ P) : Reads (x >>= f) ↔ Reads x ∧ P := by
  cases x with
  | error e =>
    exact ⟨fun h => absurd h (not_reads_error e), fun h => absurd h.1 (not_reads_error e)⟩
  | ok a => exact (hf a).trans ⟨fun h => ⟨reads_ok a, h⟩, And.right⟩

/-- A fold of readings, when it does not matter to a round what has been read. -/
theorem reads_foldlM_iff {f : β → α → Except ε β} {P : α → Prop} (hf : ∀ b a, Reads (f b a) ↔ P a)
    (l : List α) : ∀ b, Reads (l.foldlM f b) ↔ ∀ a ∈ l, P a := by
  induction l with
  | nil => exact fun b => ⟨fun _ a ha => absurd ha List.not_mem_nil, fun _ => reads_pure b⟩
  | cons a l ih =>
    intro b
    rw [List.foldlM_cons, reads_bind_iff ih, hf, List.forall_mem_cons]

/-- **Readings of the elements of a list** succeed together, and then give what each gives. -/
theorem reads_mapM_iff {f : α → Except ε β} (l : List α) :
    Reads (l.mapM f) ↔ ∀ a ∈ l, Reads (f a) := by
  induction l with
  | nil => exact ⟨fun _ a ha => absurd ha List.not_mem_nil, fun _ => reads_pure []⟩
  | cons a l ih =>
    rw [List.mapM_cons, reads_bind_iff (P := ∀ a ∈ l, Reads (f a)), List.forall_mem_cons]
    intro b
    rw [reads_bind_iff (P := True) fun bs => ⟨fun _ => trivial, fun _ => reads_pure _⟩, ih,
      and_true]

/-- **Filtering with readings** succeeds if they all do. -/
theorem reads_filterM_iff {f : α → Except ε Bool} (l : List α) :
    Reads (l.filterM f) ↔ ∀ a ∈ l, Reads (f a) := by
  have haux : ∀ acc, Reads (l.filterAuxM f acc) ↔ ∀ a ∈ l, Reads (f a) := by
    induction l with
    | nil => exact fun acc => ⟨fun _ a ha => absurd ha List.not_mem_nil, fun _ => reads_pure acc⟩
    | cons a l ih =>
      intro acc
      rw [List.filterAuxM, reads_bind_iff fun b => ih _, List.forall_mem_cons]
  rw [List.filterM, reads_bind_iff (P := True) fun as => ⟨fun _ => trivial, fun _ => reads_pure _⟩,
    haux, and_true]

/-- What is kept is what the readings say. -/
theorem filterM_eq_ok {f : α → Except ε Bool} {p : α → Bool} {l : List α}
    (h : ∀ a ∈ l, f a = .ok (p a)) : l.filterM f = .ok (l.filter p) := by
  have haux : ∀ acc, l.filterAuxM f acc = .ok ((l.filter p).reverse ++ acc) := by
    induction l with
    | nil => exact fun acc => rfl
    | cons a l ih =>
      intro acc
      obtain ⟨ha, hl⟩ := List.forall_mem_cons.mp h
      have hrest := ih hl (cond (p a) (a :: acc) acc)
      rw [List.filterAuxM, ha]
      refine hrest.trans ?_
      cases hp : p a <;> simp [hp]
  rw [List.filterM, haux, List.append_nil]
  exact congrArg Except.ok (List.reverse_reverse _)

theorem filterMap_of_mapM_eq_ok {f : α → Except ε (Option β)} {l : List α} :
    ∀ {bs : List (Option β)}, l.mapM f = .ok bs →
      bs.filterMap id = l.filterMap fun a => (f a).toOption.join := by
  induction l with
  | nil =>
    intro bs h
    cases h
    rfl
  | cons a l ih =>
    intro bs h
    rw [List.mapM_cons] at h
    cases hfa : f a with
    | error e =>
      rw [hfa] at h
      cases h
    | ok b =>
      cases hrest : l.mapM f with
      | error e =>
        rw [hfa, hrest] at h
        cases h
      | ok rest =>
        rw [hfa, hrest] at h
        cases h
        rw [List.filterMap_cons, List.filterMap_cons, ih hrest, hfa]
        rfl

end DetectBase
