import DetectBase.Foundations.Reads

/-!
# Assignments that may throw

A record is filled field by field, and each value is read by a computation that may throw
(`DetectBase.Assignment`). What was assigned before the throw stays assigned
(`DetectBase.runAssignments`). When that does no harm is the one question here: the record is left
as it was exactly when the fields before the first misfit had the values that are assigned to them
(`DetectBase.runAssignments_snd_eq_iff`), provided those are different fields.
-/

namespace DetectBase

variable {ε β : Type}

/-- **A field** of a record of type `β`. -/
structure RecordField (β α : Type) where
  /-- Its value. -/
  get : β → α
  /-- An assignment to it. -/
  set : α → β → β
  get_set : ∀ a b, get (set a b) = a
  set_get : ∀ b, set (get b) b = b

/-- An assignment to a field, of a value that is to be read first. -/
structure Assignment (ε β : Type) where
  /-- The type of the field. -/
  α : Type
  /-- The field. -/
  field : RecordField β α
  /-- What is read. -/
  read : Except ε α

namespace Assignment

/-- The field has the value that is read, if one is read. -/
def Holds (a : Assignment ε β) (b : β) : Prop := ∀ v, a.read = .ok v → a.field.get b = v

/-- The second assignment is not to the field of the first. -/
def Apart (a a' : Assignment ε β) : Prop :=
  (∀ v b, a'.field.get (a.field.set v b) = a'.field.get b) ∧
    ∀ v b, a.field.get (a'.field.set v b) = a.field.get b

end Assignment

/-- **The assignments in turn**, up to the first that throws. -/
def runAssignments : List (Assignment ε β) → β → Except ε Unit × β
  | [], b => (.ok (), b)
  | a :: as, b =>
    match a.read with
    | .ok v => runAssignments as (a.field.set v b)
    | .error e => (.error e, b)

theorem runAssignments_cons_of_ok {a : Assignment ε β} {v : a.α} (h : a.read = .ok v)
    (as : List (Assignment ε β)) (b : β) :
    runAssignments (a :: as) b = runAssignments as (a.field.set v b) := by
  rw [runAssignments, h]

theorem runAssignments_cons_of_error {a : Assignment ε β} {e : ε} (h : a.read = .error e)
    (as : List (Assignment ε β)) (b : β) : runAssignments (a :: as) b = (.error e, b) := by
  rw [runAssignments, h]

/-- The assignments throw when one of them does. -/
theorem reads_runAssignments_iff (as : List (Assignment ε β)) :
    ∀ b, Reads (runAssignments as b).1 ↔ ∀ a ∈ as, Reads a.read := by
  induction as with
  | nil => exact fun b => ⟨fun _ a ha => absurd ha List.not_mem_nil, fun _ => reads_ok ()⟩
  | cons a as ih =>
    intro b
    rw [List.forall_mem_cons]
    cases hread : a.read with
    | ok v =>
      rw [runAssignments_cons_of_ok hread, ih]
      exact ⟨fun h => ⟨reads_ok v, h⟩, And.right⟩
    | error e =>
      rw [runAssignments_cons_of_error hread]
      exact ⟨fun h => absurd h (not_reads_error e), fun h => absurd h.1 (not_reads_error e)⟩

/-- **The first misfit**: an assignment that throws, after others that do not. -/
def FirstMisfit (as pre : List (Assignment ε β)) : Prop :=
  ∃ bad post, as = pre ++ bad :: post ∧ (∀ a ∈ pre, Reads a.read) ∧ ¬Reads bad.read

theorem exists_firstMisfit {as : List (Assignment ε β)} (h : ¬∀ a ∈ as, Reads a.read) :
    ∃ pre, FirstMisfit as pre := by
  induction as with
  | nil => exact absurd (fun a ha => absurd ha List.not_mem_nil) h
  | cons a as ih =>
    by_cases ha : Reads a.read
    · obtain ⟨pre, bad, post, rfl, hpre, hbad⟩ :=
        ih fun hall => h (List.forall_mem_cons.mpr ⟨ha, hall⟩)
      exact ⟨a :: pre, bad, post, rfl, List.forall_mem_cons.mpr ⟨ha, hpre⟩, hbad⟩
    · exact ⟨[], a, as, rfl, fun a ha => absurd ha List.not_mem_nil, ha⟩

/-- The record at the first misfit is what the assignments before it have made. -/
theorem runAssignments_snd_of_firstMisfit {as pre : List (Assignment ε β)}
    (h : FirstMisfit as pre) (b : β) : (runAssignments as b).2 = (runAssignments pre b).2 := by
  obtain ⟨bad, post, rfl, hpre, hbad⟩ := h
  induction pre generalizing b with
  | nil =>
    cases hread : bad.read with
    | ok v => exact absurd ⟨v, hread⟩ hbad
    | error e => rw [List.nil_append, runAssignments_cons_of_error hread, runAssignments]
  | cons a pre ih =>
    obtain ⟨⟨v, hv⟩, hpre⟩ := List.forall_mem_cons.mp hpre
    rw [List.cons_append, runAssignments_cons_of_ok hv, runAssignments_cons_of_ok hv]
    exact ih _ hpre

/-- Assignments to other fields leave a field alone. -/
theorem get_runAssignments {α : Type} {f : RecordField β α} (as : List (Assignment ε β))
    (hother : ∀ a ∈ as, ∀ v b, f.get (a.field.set v b) = f.get b) :
    ∀ b, f.get (runAssignments as b).2 = f.get b := by
  induction as with
  | nil => exact fun _ => rfl
  | cons a as ih =>
    intro b
    obtain ⟨ha, hother⟩ := List.forall_mem_cons.mp hother
    cases hread : a.read with
    | ok v => rw [runAssignments_cons_of_ok hread, ih hother, ha]
    | error e => rw [runAssignments_cons_of_error hread]

/-- Assignments of the values that the fields have. -/
theorem runAssignments_of_holds {as : List (Assignment ε β)} {b : β} (h : ∀ a ∈ as, a.Holds b) :
    (runAssignments as b).2 = b := by
  induction as with
  | nil => rfl
  | cons a as ih =>
    obtain ⟨ha, h⟩ := List.forall_mem_cons.mp h
    cases hread : a.read with
    | ok v =>
      have hset : a.field.set v b = b := by
        rw [← ha v hread]
        exact a.field.set_get b
      rw [runAssignments_cons_of_ok hread, hset]
      exact ih h
    | error e => rw [runAssignments_cons_of_error hread]

/-- Assignments to different fields that change nothing are of the values that the fields have. -/
theorem holds_of_runAssignments_eq {as : List (Assignment ε β)}
    (hapart : as.Pairwise Assignment.Apart) (hreads : ∀ a ∈ as, Reads a.read) {b : β}
    (h : (runAssignments as b).2 = b) :
    ∀ a ∈ as, a.Holds b := by
  -- the first assignment is not undone by the others
  induction as generalizing b with
  | nil => exact fun a ha => absurd ha List.not_mem_nil
  | cons a as ih =>
    obtain ⟨hfirst, hapart⟩ := List.pairwise_cons.mp hapart
    obtain ⟨⟨v, hv⟩, hreads⟩ := List.forall_mem_cons.mp hreads
    rw [runAssignments_cons_of_ok hv] at h
    have hget : a.field.get b = v := by
      have hrest := get_runAssignments as (fun a' ha' => (hfirst a' ha').2) (a.field.set v b)
      rw [h, a.field.get_set] at hrest
      exact hrest
    have hset : a.field.set v b = b := by
      rw [← hget]
      exact a.field.set_get b
    rw [hset] at h
    refine List.forall_mem_cons.mpr ⟨fun v' hv' => ?_, ih hapart hreads h⟩
    rw [hv] at hv'
    cases hv'
    exact hget

/-- **When a throw does no harm**: the record is left as it was exactly when the fields before the
first misfit had the values that are assigned to them. -/
theorem runAssignments_snd_eq_iff {as : List (Assignment ε β)}
    (hapart : as.dropLast.Pairwise Assignment.Apart) (b : β) :
    (¬Reads (runAssignments as b).1 → (runAssignments as b).2 = b) ↔
      ∀ pre, FirstMisfit as pre → ∀ a ∈ pre, a.Holds b := by
  rw [reads_runAssignments_iff]
  constructor
  · intro h pre hpre
    have hthrows : ¬∀ a ∈ as, Reads a.read := by
      obtain ⟨bad, post, rfl, -, hbad⟩ := hpre
      exact fun hall => hbad (hall bad (List.mem_append_right _ List.mem_cons_self))
    have hsub : pre.Sublist as.dropLast := by
      obtain ⟨bad, post, rfl, -, -⟩ := hpre
      rw [List.dropLast_append_of_ne_nil (by simp)]
      exact List.sublist_append_left ..
    have hsame := h hthrows
    rw [runAssignments_snd_of_firstMisfit hpre] at hsame
    obtain ⟨-, -, -, hreads, -⟩ := hpre
    exact holds_of_runAssignments_eq (hapart.sublist hsub) hreads hsame
  · intro h hthrows
    obtain ⟨pre, hpre⟩ := exists_firstMisfit hthrows
    rw [runAssignments_snd_of_firstMisfit hpre]
    exact runAssignments_of_holds (h pre hpre)

end DetectBase
