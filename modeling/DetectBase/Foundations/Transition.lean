import Mathlib.Data.List.Basic
import Mathlib.Data.Option.Basic

/-!
# Runs of a partial transition function

A concurrent component is given by a function `step : σ → α → Option σ`: in state `s` the
action `a` is enabled when `step s a` is `some s'`, and `s'` is then the only successor. All the
nondeterminism of a scheduler – which thread moves, which branch of a race is taken, in which
order a hash map is walked – sits in the list of actions, so that a statement about every
interleaving is a statement about every list of actions, and a schedule that breaks a property
is a list the kernel can run.

One rule carries all the proofs about such systems (`DetectBase.Guarded.invariant`): a predicate
that is kept by the steps that meet a guard is kept by every run whose steps all meet it. Where a
statement is about what has happened in a run, an account is kept of it (`DetectBase.accountOf`),
which no step can read; the rule for these is `DetectBase.Guarded.account`.
-/

namespace DetectBase

variable {σ α : Type*}

section Runs

variable (step : σ → α → Option σ)

/-- The state that a list of actions leads to, provided each of them is enabled in turn. -/
def runFrom : σ → List α → Option σ
  | s, [] => some s
  | s, a :: as => (step s a).bind fun s' => runFrom s' as

/-- **Every step of the run meets the guard**, read in the state it is taken from. -/
def Guarded (ok : σ → α → Prop) : σ → List α → Prop
  | _, [] => True
  | s, a :: as => ok s a ∧ ∀ s', step s a = some s' → Guarded ok s' as

end Runs

variable {step : σ → α → Option σ}

theorem runFrom_cons {s s' : σ} {a : α} {as : List α} :
    runFrom step s (a :: as) = some s' ↔
      ∃ s₁, step s a = some s₁ ∧ runFrom step s₁ as = some s' := by
  rw [runFrom]
  exact Option.bind_eq_some_iff

/-- A run in two parts. -/
theorem runFrom_append {as bs : List α} : ∀ {s s' : σ}, runFrom step s (as ++ bs) = some s' ↔
    ∃ s₁, runFrom step s as = some s₁ ∧ runFrom step s₁ bs = some s' := by
  induction as with
  | nil =>
    intro s s'
    simp [runFrom]
  | cons a as ih =>
    intro s s'
    rw [List.cons_append, runFrom_cons]
    constructor
    · rintro ⟨s₁, ha, hrest⟩
      obtain ⟨s₂, has, hbs⟩ := ih.mp hrest
      exact ⟨s₂, runFrom_cons.mpr ⟨s₁, ha, has⟩, hbs⟩
    · rintro ⟨s₂, has, hbs⟩
      obtain ⟨s₁, ha, hrest⟩ := runFrom_cons.mp has
      exact ⟨s₁, ha, ih.mpr ⟨s₂, hrest, hbs⟩⟩

/-- A given run can be looked through for a step that does not meet the guard. -/
instance Guarded.decidable {ok : σ → α → Prop} [∀ s a, Decidable (ok s a)] :
    ∀ (s : σ) (as : List α), Decidable (Guarded step ok s as)
  | _, [] => isTrue trivial
  | s, a :: as =>
    match hs : step s a with
    | none => decidable_of_iff (ok s a)
        ⟨fun hok => ⟨hok, fun s' hs' => by rw [hs] at hs'; cases hs'⟩, fun h => h.1⟩
    | some s₁ =>
      have : Decidable (Guarded step ok s₁ as) := Guarded.decidable s₁ as
      decidable_of_iff (ok s a ∧ Guarded step ok s₁ as)
        ⟨fun h => ⟨h.1, fun s' hs' => by rw [hs] at hs'; cases hs'; exact h.2⟩,
          fun h => ⟨h.1, h.2 s₁ hs⟩⟩

/-- **A run is guarded when every action is**, in the state the actions before it lead to. -/
theorem guarded_iff {ok : σ → α → Prop} {as : List α} : ∀ {s : σ}, Guarded step ok s as ↔
    ∀ pre a post s', as = pre ++ a :: post → runFrom step s pre = some s' → ok s' a := by
  induction as with
  | nil =>
    intro s
    refine ⟨fun _ pre a post s' heq _ => ?_, fun _ => trivial⟩
    simp at heq
  | cons b as ih =>
    intro s
    constructor
    · rintro ⟨hb, hrest⟩ pre a post s' heq hrun
      cases pre with
      | nil =>
        cases heq
        cases hrun
        exact hb
      | cons b' pre =>
        rw [List.cons_append, List.cons.injEq] at heq
        obtain ⟨rfl, heq⟩ := heq
        obtain ⟨s₁, h1, h2⟩ := runFrom_cons.mp hrun
        exact ih.mp (hrest s₁ h1) pre a post s' heq h2
    · intro h
      refine ⟨h [] b as s rfl rfl, fun s₁ h1 => ih.mpr fun pre a post s' heq hrun => ?_⟩
      exact h (b :: pre) a post s' (by rw [heq]; rfl) (runFrom_cons.mpr ⟨s₁, h1, hrun⟩)

/-- Guards that are met together. -/
theorem Guarded.and {ok ok' : σ → α → Prop} {as : List α} : ∀ {s : σ}, Guarded step ok s as →
    Guarded step ok' s as → Guarded step (fun s a => ok s a ∧ ok' s a) s as := by
  induction as with
  | nil => intro s _ _; trivial
  | cons a as ih =>
    intro s h h'
    exact ⟨⟨h.1, h'.1⟩, fun s' hs' => ih (h.2 s' hs') (h'.2 s' hs')⟩

/-- A guarded run in two parts. -/
theorem Guarded.append {ok : σ → α → Prop} {as bs : List α} : ∀ {s : σ},
    Guarded step ok s (as ++ bs) → Guarded step ok s as ∧
      ∀ s₁, runFrom step s as = some s₁ → Guarded step ok s₁ bs := by
  induction as with
  | nil =>
    rintro s h
    refine ⟨trivial, ?_⟩
    rintro s₁ ⟨⟩
    exact h
  | cons a as ih =>
    rintro s ⟨ha, hrest⟩
    refine ⟨⟨ha, fun s₁ hs₁ => (ih (hrest s₁ hs₁)).1⟩, fun s₂ hs₂ => ?_⟩
    obtain ⟨s₁, hs₁, hs₂⟩ := runFrom_cons.mp hs₂
    exact (ih (hrest s₁ hs₁)).2 s₂ hs₂

/-- **The invariant rule**: what the guarded steps keep, every guarded run keeps. -/
theorem Guarded.invariant {ok : σ → α → Prop} {I : σ → Prop}
    (hstep : ∀ s a s', I s → ok s a → step s a = some s' → I s') :
    ∀ {as : List α} {s s' : σ}, Guarded step ok s as → I s → runFrom step s as = some s' →
      I s' := by
  intro as
  induction as with
  | nil =>
    intro s s' _ hs hrun
    rwa [← Option.some.inj hrun]
  | cons a as ih =>
    intro s s' hok hs hrun
    obtain ⟨s₁, ha, hrest⟩ := runFrom_cons.mp hrun
    exact ih (hok.2 s₁ ha) (hstep s a s₁ hs hok.1 ha) hrest

/-- What all steps keep, every run keeps. -/
theorem runFrom_invariant {I : σ → Prop} (hstep : ∀ s a s', I s → step s a = some s' → I s') :
    ∀ {as : List α} {s s' : σ}, I s → runFrom step s as = some s' → I s' := by
  intro as
  induction as with
  | nil =>
    intro s s' hs hrun
    rwa [← Option.some.inj hrun]
  | cons a as ih =>
    intro s s' hs hrun
    obtain ⟨s₁, ha, hrest⟩ := runFrom_cons.mp hrun
    exact ih (hstep s a s₁ hs ha) hrest

/-- **The account of a run**: it is brought up to date with each step. -/
def accountOf {ρ : Type*} (step : σ → α → Option σ) (update : ρ → σ → α → σ → ρ) :
    ρ → σ → List α → ρ
  | r, _, [] => r
  | r, s, a :: as =>
    match step s a with
    | some s' => accountOf step update (update r s a s') s' as
    | none => r

/-- **The rule for accounts**: what the guarded steps keep of a state and an account, every guarded
run keeps. -/
theorem Guarded.account {ρ : Type*} {ok : σ → α → Prop} (update : ρ → σ → α → σ → ρ)
    {I : σ → ρ → Prop}
    (hstep : ∀ s r a s', I s r → ok s a → step s a = some s' → I s' (update r s a s')) :
    ∀ {as : List α} {s s' : σ} {r : ρ}, Guarded step ok s as → I s r →
      runFrom step s as = some s' → I s' (accountOf step update r s as) := by
  intro as
  induction as with
  | nil =>
    intro s s' r _ h hrun
    rwa [← Option.some.inj hrun]
  | cons a as ih =>
    intro s s' r hok h hrun
    obtain ⟨s₁, ha, hrest⟩ := runFrom_cons.mp hrun
    rw [accountOf, ha]
    exact ih (hok.2 s₁ ha) (hstep s r a s₁ h hok.1 ha) hrest

/-- **A guard that follows from another one** where an invariant holds, and the other one keeps the
invariant. -/
theorem Guarded.imp_of_kept {ok ok' : σ → α → Prop} {I : σ → Prop}
    (himp : ∀ s a, I s → ok s a → ok' s a)
    (hstep : ∀ s a s', I s → ok s a → step s a = some s' → I s') :
    ∀ {as : List α} {s : σ}, I s → Guarded step ok s as → Guarded step ok' s as := by
  intro as
  induction as with
  | nil => exact fun _ _ => trivial
  | cons a as ih =>
    rintro s hs ⟨hok, hrest⟩
    exact ⟨himp s a hs hok, fun s' ha => ih (hstep s a s' hs hok ha) (hrest s' ha)⟩

/-- **Guards that agree where an invariant holds** are met by the same runs, when the steps that
meet them keep the invariant. -/
theorem Guarded.congr_of_kept {ok ok' : σ → α → Prop} {I : σ → Prop}
    (hiff : ∀ s a, I s → (ok s a ↔ ok' s a))
    (hstep : ∀ s a s', I s → ok s a → step s a = some s' → I s')
    {as : List α} {s : σ} (hs : I s) : Guarded step ok s as ↔ Guarded step ok' s as :=
  ⟨Guarded.imp_of_kept (fun s a h => (hiff s a h).mp) hstep hs,
    Guarded.imp_of_kept (fun s a h => (hiff s a h).mpr)
      (fun s a s' h hok' => hstep s a s' h ((hiff s a h).mpr hok')) hs⟩

/-- Guards that agree where an invariant of all steps holds are met by the same runs. -/
theorem Guarded.congr {ok ok' : σ → α → Prop} {I : σ → Prop}
    (hiff : ∀ s a, I s → (ok s a ↔ ok' s a))
    (hstep : ∀ s a s', I s → step s a = some s' → I s') :
    ∀ {as : List α} {s : σ}, I s → (Guarded step ok s as ↔ Guarded step ok' s as) :=
  Guarded.congr_of_kept hiff fun s a s' hs _ ha => hstep s a s' hs ha

end DetectBase
