import Mathlib.Analysis.Convex.Segment
import Mathlib.Data.Sign.Basic
import Mathlib.Tactic.FieldSimp
import Mathlib.Tactic.Linarith
import Mathlib.Tactic.LinearCombination

/-!
# When two segments of the plane meet

The test for the intersection of two closed segments by the turns that their end points make: the
ends of each segment are on different sides of the other, or an end of one is on the other. It is
exact in the plane over any ordered field, whatever the segments – crossing, touching, along one
line, or reduced to a point (`DetectBase.segments_meet_iff`).
-/

namespace DetectBase

variable {K : Type*} [Field K]

/-- **The turn at `q` on the way from `p` to `r`**: positive to the right, negative to the left, and
zero when the three points are on a line. -/
def turn (p q r : K × K) : K := (q.2 - p.2) * (r.1 - q.1) - (q.1 - p.1) * (r.2 - q.2)

/-- **The turn to a point of a segment** is what the turns to its ends average to. -/
theorem turn_of_param {p q p' q' r : K × K} {θ : K} (hx : r.1 = p'.1 + θ * (q'.1 - p'.1))
    (hy : r.2 = p'.2 + θ * (q'.2 - p'.2)) :
    turn p q r = (1 - θ) * turn p q p' + θ * turn p q q' := by
  rw [turn, turn, turn, hx, hy]
  ring

/-- The turn at the other end of the first segment. -/
theorem turn_swap (p q r : K × K) : turn q p r = -turn p q r := by
  rw [turn, turn]
  ring

variable [LinearOrder K]

/-- **Segments that cross properly**: the end points of each are strictly on opposite sides of the
other one. -/
def CrossProperly (p₁ q₁ p₂ q₂ : K × K) : Prop :=
  turn p₁ q₁ p₂ * turn p₁ q₁ q₂ < 0 ∧ turn p₂ q₂ p₁ * turn p₂ q₂ q₁ < 0

/-- They still do when one of them is turned round. -/
theorem CrossProperly.swap {p₁ q₁ p₂ q₂ : K × K} (h : CrossProperly p₁ q₁ p₂ q₂) :
    CrossProperly q₁ p₁ p₂ q₂ := by
  obtain ⟨h₁, h₂⟩ := h
  rw [CrossProperly, turn_swap p₁, turn_swap p₁, neg_mul_neg, mul_comm (turn p₂ q₂ q₁)]
  exact ⟨h₁, h₂⟩

/-- `r` is in the box of which `p` and `q` are opposite corners. -/
def InBox (p q r : K × K) : Prop := r.1 ∈ Set.uIcc p.1 q.1 ∧ r.2 ∈ Set.uIcc p.2 q.2

/-- **The test**: the ends of each segment are on different sides of the other one, or an end of one
is on the other. -/
def TurnsMeet (p₁ q₁ p₂ q₂ : K × K) : Prop :=
  (SignType.sign (turn p₁ q₁ p₂) ≠ SignType.sign (turn p₁ q₁ q₂) ∧
      SignType.sign (turn p₂ q₂ p₁) ≠ SignType.sign (turn p₂ q₂ q₁)) ∨
    (turn p₁ q₁ p₂ = 0 ∧ InBox p₁ q₁ p₂) ∨ (turn p₁ q₁ q₂ = 0 ∧ InBox p₁ q₁ q₂) ∨
    (turn p₂ q₂ p₁ = 0 ∧ InBox p₂ q₂ p₁) ∨ (turn p₂ q₂ q₁ = 0 ∧ InBox p₂ q₂ q₁)

theorem TurnsMeet.symm {p₁ q₁ p₂ q₂ : K × K} (h : TurnsMeet p₁ q₁ p₂ q₂) :
    TurnsMeet p₂ q₂ p₁ q₁ := by
  obtain ⟨h1, h2⟩ | h | h | h | h := h
  · exact .inl ⟨h2, h1⟩
  · exact .inr (.inr (.inr (.inl h)))
  · exact .inr (.inr (.inr (.inr h)))
  · exact .inr (.inl h)
  · exact .inr (.inr (.inl h))

variable [IsStrictOrderedRing K]

/-! ### Points of a segment -/

/-- A point of a segment, by the fraction of the way it is at. -/
theorem mem_segment_iff {p q r : K × K} :
    r ∈ segment K p q ↔ ∃ θ : K, 0 ≤ θ ∧ θ ≤ 1 ∧ r.1 = p.1 + θ * (q.1 - p.1) ∧
      r.2 = p.2 + θ * (q.2 - p.2) := by
  rw [segment_eq_image']
  constructor
  · rintro ⟨θ, ⟨h0, h1⟩, rfl⟩
    exact ⟨θ, h0, h1, rfl, rfl⟩
  · rintro ⟨θ, h0, h1, hx, hy⟩
    exact ⟨θ, ⟨h0, h1⟩, Prod.ext hx.symm hy.symm⟩

/-- A number between two others, by the fraction of the way it is at. -/
theorem mem_uIcc_iff {a b x : K} :
    x ∈ Set.uIcc a b ↔ ∃ θ : K, 0 ≤ θ ∧ θ ≤ 1 ∧ x = a + θ * (b - a) := by
  rw [← segment_eq_uIcc, segment_eq_image']
  constructor
  · rintro ⟨θ, ⟨h0, h1⟩, rfl⟩
    exact ⟨θ, h0, h1, rfl⟩
  · rintro ⟨θ, h0, h1, rfl⟩
    exact ⟨θ, ⟨h0, h1⟩, rfl⟩

theorem inBox_of_mem_segment {p q r : K × K} (h : r ∈ segment K p q) : InBox p q r := by
  obtain ⟨θ, h0, h1, hx, hy⟩ := mem_segment_iff.mp h
  exact ⟨mem_uIcc_iff.mpr ⟨θ, h0, h1, hx⟩, mem_uIcc_iff.mpr ⟨θ, h0, h1, hy⟩⟩

theorem turn_eq_zero_of_mem_segment {p q r : K × K} (h : r ∈ segment K p q) :
    turn p q r = 0 := by
  obtain ⟨θ, -, -, hx, hy⟩ := mem_segment_iff.mp h
  rw [turn, hx, hy]
  ring

/-- A point on the line through two others and between them in one coordinate in which they differ
is on the segment. -/
theorem mem_segment_of_turn_eq_zero {p q r : K × K} (hturn : turn p q r = 0)
    (hbox : InBox p q r) : r ∈ segment K p q := by
  rw [turn] at hturn
  obtain ⟨⟨θ, h0, h1, hx⟩, ⟨η, g0, g1, hy⟩⟩ := hbox.imp mem_uIcc_iff.mp mem_uIcc_iff.mp
  by_cases hne : q.1 - p.1 = 0
  · refine mem_segment_iff.mpr ⟨η, g0, g1, ?_, hy⟩
    rw [hx, hne]
    ring
  · refine mem_segment_iff.mpr ⟨θ, h0, h1, hx, mul_left_cancel₀ hne ?_⟩
    rw [hx] at hturn
    linear_combination -hturn

/-! ### The test is sound -/

omit [IsStrictOrderedRing K] in
/-- Zero is between two numbers of different signs. -/
theorem zero_between_of_sign_ne {a b : K} (hlt : b < a)
    (h : SignType.sign a ≠ SignType.sign b) : b ≤ 0 ∧ 0 ≤ a := by
  constructor
  · by_contra hb
    rw [not_le] at hb
    exact h (by rw [sign_pos hb, sign_pos (hb.trans hlt)])
  · by_contra ha
    rw [not_le] at ha
    exact h (by rw [sign_neg ha, sign_neg (hlt.trans ha)])

/-- Zero is a fraction of the way from `a` to `b` when their signs are different. -/
theorem fraction_of_sign_ne {a b : K} (h : SignType.sign a ≠ SignType.sign b) :
    a - b ≠ 0 ∧ 0 ≤ a / (a - b) ∧ a / (a - b) ≤ 1 := by
  have hne : a ≠ b := fun heq => h (by rw [heq])
  refine ⟨sub_ne_zero.mpr hne, ?_⟩
  rcases lt_or_gt_of_ne hne with hlt | hgt
  · obtain ⟨ha, hb⟩ := zero_between_of_sign_ne hlt h.symm
    have hneg : a - b < 0 := sub_neg.mpr hlt
    exact ⟨div_nonneg_of_nonpos ha hneg.le, (div_le_one_of_neg hneg).mpr (by linarith)⟩
  · obtain ⟨hb, ha⟩ := zero_between_of_sign_ne hgt h
    have hpos : 0 < a - b := sub_pos.mpr hgt
    exact ⟨div_nonneg ha hpos.le, (div_le_one hpos).mpr (by linarith)⟩

/-- Segments of which each has its ends on different sides of the other cross. -/
theorem exists_mem_of_sign_ne {p₁ q₁ p₂ q₂ : K × K}
    (h₂ : SignType.sign (turn p₁ q₁ p₂) ≠ SignType.sign (turn p₁ q₁ q₂))
    (h₁ : SignType.sign (turn p₂ q₂ p₁) ≠ SignType.sign (turn p₂ q₂ q₁)) :
    ∃ r, r ∈ segment K p₁ q₁ ∧ r ∈ segment K p₂ q₂ := by
  obtain ⟨hne₁, h10, h11⟩ := fraction_of_sign_ne h₁
  obtain ⟨hne₂, h20, h21⟩ := fraction_of_sign_ne h₂
  -- the two fractions lead to the same point
  have hden : turn p₁ q₁ p₂ - turn p₁ q₁ q₂ = -(turn p₂ q₂ p₁ - turn p₂ q₂ q₁) := by
    simp only [turn]
    ring
  set θ := turn p₂ q₂ p₁ / (turn p₂ q₂ p₁ - turn p₂ q₂ q₁) with hθ
  refine ⟨(p₁.1 + θ * (q₁.1 - p₁.1), p₁.2 + θ * (q₁.2 - p₁.2)),
    mem_segment_iff.mpr ⟨θ, h10, h11, rfl, rfl⟩, mem_segment_iff.mpr ⟨_, h20, h21, ?_, ?_⟩⟩
  · rw [hden, hθ]
    field_simp
    simp only [turn]
    ring
  · rw [hden, hθ]
    field_simp
    simp only [turn]
    ring

/-- **The test is sound.** -/
theorem TurnsMeet.exists_mem {p₁ q₁ p₂ q₂ : K × K} (h : TurnsMeet p₁ q₁ p₂ q₂) :
    ∃ r, r ∈ segment K p₁ q₁ ∧ r ∈ segment K p₂ q₂ := by
  obtain ⟨h₂, h₁⟩ | ⟨h, hbox⟩ | ⟨h, hbox⟩ | ⟨h, hbox⟩ | ⟨h, hbox⟩ := h
  · exact exists_mem_of_sign_ne h₂ h₁
  · exact ⟨p₂, mem_segment_of_turn_eq_zero h hbox, left_mem_segment K p₂ q₂⟩
  · exact ⟨q₂, mem_segment_of_turn_eq_zero h hbox, right_mem_segment K p₂ q₂⟩
  · exact ⟨p₁, left_mem_segment K p₁ q₁, mem_segment_of_turn_eq_zero h hbox⟩
  · exact ⟨q₁, right_mem_segment K p₁ q₁, mem_segment_of_turn_eq_zero h hbox⟩

/-! ### The test is complete -/

/-- Positive numbers do not average to zero. -/
theorem average_pos {a b θ : K} (h0 : 0 ≤ θ) (h1 : θ ≤ 1) (ha : 0 < a) (hb : 0 < b) :
    0 < (1 - θ) * a + θ * b := by
  rcases h0.eq_or_lt with rfl | hpos
  · simpa using ha
  · have hleft : 0 ≤ (1 - θ) * a := mul_nonneg (sub_nonneg.mpr h1) ha.le
    have hright : 0 < θ * b := mul_pos hpos hb
    linarith

/-- Two numbers of one sign that average to zero are zero. -/
theorem eq_zero_of_sign_eq {a b θ : K} (h0 : 0 ≤ θ) (h1 : θ ≤ 1)
    (havg : (1 - θ) * a + θ * b = 0) (h : SignType.sign a = SignType.sign b) :
    a = 0 ∧ b = 0 := by
  rcases lt_trichotomy a 0 with ha | ha | ha
  · rw [sign_neg ha] at h
    have hb : b < 0 := sign_eq_neg_one_iff.mp h.symm
    have hpos := average_pos h0 h1 (neg_pos.mpr ha) (neg_pos.mpr hb)
    linarith
  · rw [ha, sign_zero] at h
    exact ⟨ha, sign_eq_zero_iff.mp h.symm⟩
  · rw [sign_pos ha] at h
    have hpos := average_pos h0 h1 ha (sign_eq_one_iff.mp h.symm)
    linarith

omit [IsStrictOrderedRing K] in
/-- Of two intervals that meet, one has an end in the other: `θ` is in both, and the first is the
unit interval. -/
theorem end_between {α β θ : K} (h0 : 0 ≤ θ) (h1 : θ ≤ 1) (hθ : θ ∈ Set.uIcc α β) :
    (0 ≤ α ∧ α ≤ 1) ∨ (0 ≤ β ∧ β ≤ 1) ∨ 0 ∈ Set.uIcc α β := by
  rcases Set.mem_uIcc.mp hθ with ⟨hα, hβ⟩ | ⟨hβ, hα⟩
  · rcases le_total 0 α with h | h
    · exact .inl ⟨h, hα.trans h1⟩
    · exact .inr (.inr (Set.mem_uIcc.mpr (.inl ⟨h, h0.trans hβ⟩)))
  · rcases le_total 0 β with h | h
    · exact .inr (.inl ⟨h, hβ.trans h1⟩)
    · exact .inr (.inr (Set.mem_uIcc.mpr (.inr ⟨h, h0.trans hα⟩)))

omit [LinearOrder K] [IsStrictOrderedRing K] in
/-- A point on the line through two different points. -/
theorem exists_param_of_turn_eq_zero {p q r : K × K} (hne : p ≠ q) (h : turn p q r = 0) :
    ∃ α : K, r.1 = p.1 + α * (q.1 - p.1) ∧ r.2 = p.2 + α * (q.2 - p.2) := by
  rw [turn] at h
  by_cases hx : q.1 - p.1 = 0
  · have hy : q.2 - p.2 ≠ 0 :=
      fun hy => hne (Prod.ext (sub_eq_zero.mp hx).symm (sub_eq_zero.mp hy).symm)
    refine ⟨(r.2 - p.2) / (q.2 - p.2), mul_left_cancel₀ hy ?_, by field_simp; ring⟩
    field_simp
    linear_combination h
  · refine ⟨(r.1 - p.1) / (q.1 - p.1), by field_simp; ring, mul_left_cancel₀ hx ?_⟩
    field_simp
    linear_combination -h

/-- Segments along one line that have a point in common pass the test. -/
theorem turnsMeet_of_turn_eq_zero {p₁ q₁ p₂ q₂ r : K × K} (hp : turn p₁ q₁ p₂ = 0)
    (hq : turn p₁ q₁ q₂ = 0) (h₁ : r ∈ segment K p₁ q₁) (h₂ : r ∈ segment K p₂ q₂) :
    TurnsMeet p₁ q₁ p₂ q₂ := by
  have hstart : p₁ ∈ segment K p₂ q₂ → TurnsMeet p₁ q₁ p₂ q₂ := fun h =>
    .inr (.inr (.inr (.inl ⟨turn_eq_zero_of_mem_segment h, inBox_of_mem_segment h⟩)))
  by_cases hne : p₁ = q₁
  · -- the first segment is a point
    rw [← hne, segment_same, Set.mem_singleton_iff] at h₁
    exact hstart (h₁ ▸ h₂)
  · obtain ⟨α, hαx, hαy⟩ := exists_param_of_turn_eq_zero hne hp
    obtain ⟨β, hβx, hβy⟩ := exists_param_of_turn_eq_zero hne hq
    obtain ⟨θ, h0, h1, hx, hy⟩ := mem_segment_iff.mp h₁
    obtain ⟨η, hη0, hη1, hx', hy'⟩ := mem_segment_iff.mp h₂
    have hθ : θ = α + η * (β - α) := by
      by_cases hdx : q₁.1 - p₁.1 = 0
      · have hdy : q₁.2 - p₁.2 ≠ 0 :=
          fun hdy => hne (Prod.ext (sub_eq_zero.mp hdx).symm (sub_eq_zero.mp hdy).symm)
        refine mul_right_cancel₀ hdy ?_
        linear_combination hy' - hy + (1 - η) * hαy + η * hβy
      · refine mul_right_cancel₀ hdx ?_
        linear_combination hx' - hx + (1 - η) * hαx + η * hβx
    obtain ⟨hα0, hα1⟩ | ⟨hβ0, hβ1⟩ | hzero :=
      end_between h0 h1 (mem_uIcc_iff.mpr ⟨η, hη0, hη1, hθ⟩)
    · exact .inr (.inl ⟨hp, inBox_of_mem_segment (mem_segment_iff.mpr ⟨α, hα0, hα1, hαx, hαy⟩)⟩)
    · exact .inr (.inr (.inl
        ⟨hq, inBox_of_mem_segment (mem_segment_iff.mpr ⟨β, hβ0, hβ1, hβx, hβy⟩)⟩))
    · obtain ⟨ζ, hζ0, hζ1, hζ⟩ := mem_uIcc_iff.mp hzero
      refine hstart (mem_segment_iff.mpr ⟨ζ, hζ0, hζ1, ?_, ?_⟩)
      · linear_combination (ζ - 1) * hαx - ζ * hβx + (q₁.1 - p₁.1) * hζ
      · linear_combination (ζ - 1) * hαy - ζ * hβy + (q₁.2 - p₁.2) * hζ

/-- **The test is complete.** -/
theorem turnsMeet_of_mem {p₁ q₁ p₂ q₂ r : K × K} (h₁ : r ∈ segment K p₁ q₁)
    (h₂ : r ∈ segment K p₂ q₂) : TurnsMeet p₁ q₁ p₂ q₂ := by
  obtain ⟨θ, hθ0, hθ1, hx, hy⟩ := mem_segment_iff.mp h₁
  obtain ⟨η, hη0, hη1, hx', hy'⟩ := mem_segment_iff.mp h₂
  have havg₂ : (1 - η) * turn p₁ q₁ p₂ + η * turn p₁ q₁ q₂ = 0 := by
    rw [← turn_of_param hx' hy', turn_eq_zero_of_mem_segment h₁]
  have havg₁ : (1 - θ) * turn p₂ q₂ p₁ + θ * turn p₂ q₂ q₁ = 0 := by
    rw [← turn_of_param hx hy, turn_eq_zero_of_mem_segment h₂]
  by_cases hsign₂ : SignType.sign (turn p₁ q₁ p₂) = SignType.sign (turn p₁ q₁ q₂)
  · obtain ⟨hp, hq⟩ := eq_zero_of_sign_eq hη0 hη1 havg₂ hsign₂
    exact turnsMeet_of_turn_eq_zero hp hq h₁ h₂
  · by_cases hsign₁ : SignType.sign (turn p₂ q₂ p₁) = SignType.sign (turn p₂ q₂ q₁)
    · obtain ⟨hp, hq⟩ := eq_zero_of_sign_eq hθ0 hθ1 havg₁ hsign₁
      exact (turnsMeet_of_turn_eq_zero hp hq h₂ h₁).symm
    · exact .inl ⟨hsign₂, hsign₁⟩

/-- **Two closed segments meet when the test says so.** -/
theorem segments_meet_iff {p₁ q₁ p₂ q₂ : K × K} :
    (∃ r, r ∈ segment K p₁ q₁ ∧ r ∈ segment K p₂ q₂) ↔ TurnsMeet p₁ q₁ p₂ q₂ := by
  constructor
  · rintro ⟨r, h₁, h₂⟩
    exact turnsMeet_of_mem h₁ h₂
  · exact TurnsMeet.exists_mem

end DetectBase
