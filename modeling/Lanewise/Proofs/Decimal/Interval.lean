import Lanewise.Decimal.Shortest
import Mathlib.Algebra.Order.Field.Power
import Mathlib.Algebra.Order.Field.Rat
import Mathlib.Tactic.FieldSimp
import Mathlib.Tactic.Linarith
import Mathlib.Tactic.Ring

/-!
# Rounding intervals

The rationals that round to a finite double lie around it, and those of two doubles never meet
(`eq_of_contains`).
-/

namespace Lanewise.Decimal

-- ---------------------------------------------------------------------------
-- Bits
-- ---------------------------------------------------------------------------

/-- The mantissas and exponents that finite doubles have: all digits are used unless the exponent is
the least one. -/
structure IsNormal (mantissa : Nat) (exponent : Int) : Prop where
  mantissa_lt : mantissa < 2 ^ 53
  exponent_ge : -1074 ≤ exponent
  full : mantissa < 2 ^ 52 → exponent = -1074

namespace Binary64

theorem view_isNormal {x : Binary64} (h : x.view = .finite negative mantissa exponent) :
    IsNormal mantissa exponent := by
  have hbits := x.bits.toNat_lt
  unfold view at h
  simp only [fullMantissa, leastExponent, Nat.pow_eq, beq_iff_eq] at h
  split at h
  · split at h <;> cases h
  split at h
  · obtain ⟨-, rfl, rfl⟩ := View.finite.inj h
    constructor <;> omega
  · obtain ⟨-, rfl, rfl⟩ := View.finite.inj h
    constructor <;> omega

def View.double : View → Binary64
  | .nan => Binary64.nan
  | .infinite negative => infinity negative
  | .finite negative mantissa exponent =>
    if mantissa < fullMantissa then assemble negative 0 mantissa
    else assemble negative (exponent + 1075).toNat (mantissa - fullMantissa)

theorem assemble_eq {x : Binary64} (h : (if negative then Nat.pow 2 63 else 0) +
    biased * Nat.pow 2 52 + fraction = x.bits.toNat) : assemble negative biased fraction = x := by
  rw [assemble, h, UInt64.ofNat_toNat]

theorem double_view {x : Binary64} (hx : x.view ≠ .nan) : x.view.double = x := by
  have hbits := x.bits.toNat_lt
  have hsign : (if x.bits.toNat / Nat.pow 2 63 == 1 then Nat.pow 2 63 else 0) =
      x.bits.toNat / 2 ^ 63 * 2 ^ 63 := by
    simp only [beq_iff_eq, Nat.pow_eq]
    split <;> omega
  unfold view at hx ⊢
  simp only [fullMantissa, leastExponent, beq_iff_eq] at hx ⊢
  split
  · split
    · apply assemble_eq
      rw [hsign]
      simp only [Nat.pow_eq] at *
      omega
    · rename_i hspecial hfraction
      rw [if_pos hspecial, if_neg hfraction] at hx
      exact absurd rfl hx
  · split
    · have hsmall : x.bits.toNat % Nat.pow 2 52 < Nat.pow 2 52 := Nat.mod_lt _ (by decide)
      rw [View.double, fullMantissa, if_pos hsmall]
      apply assemble_eq
      rw [hsign]
      simp only [Nat.pow_eq] at *
      omega
    · rw [View.double, fullMantissa, if_neg (by omega)]
      apply assemble_eq
      rw [hsign]
      simp only [Nat.pow_eq] at *
      omega

end Binary64

-- ---------------------------------------------------------------------------
-- Intervals of rationals
-- ---------------------------------------------------------------------------

namespace Interval

def lower (i : Interval) : ℚ := i.low / i.denominator

def upper (i : Interval) : ℚ := i.high / i.denominator

/-- A rational lies between the ends, which count if the interval is closed. -/
structure Contains (i : Interval) (q : ℚ) : Prop where
  lower_le : i.lower ≤ q
  le_upper : q ≤ i.upper
  inside : i.closed = false → i.lower < q ∧ q < i.upper

theorem Contains.of_inside {i : Interval} (hlower : i.lower < q) (hupper : q < i.upper) :
    i.Contains q := ⟨hlower.le, hupper.le, fun _ => ⟨hlower, hupper⟩⟩

theorem holds_iff {i : Interval} (hi : 0 < i.denominator) (hden : 0 < den) :
    i.holds num den = true ↔ i.Contains (num / den) := by
  have hi : (0 : ℚ) < i.denominator := by exact_mod_cast hi
  have hden : (0 : ℚ) < den := by exact_mod_cast hden
  have lower_le : i.lower ≤ num / den ↔ i.low * den ≤ num * i.denominator := by
    rw [lower, div_le_div_iff₀ hi hden]
    exact_mod_cast Iff.rfl
  have lower_lt : i.lower < num / den ↔ i.low * den < num * i.denominator := by
    rw [lower, div_lt_div_iff₀ hi hden]
    exact_mod_cast Iff.rfl
  have le_upper : num / den ≤ i.upper ↔ num * i.denominator ≤ i.high * den := by
    rw [upper, div_le_div_iff₀ hden hi]
    exact_mod_cast Iff.rfl
  have lt_upper : num / den < i.upper ↔ num * i.denominator < i.high * den := by
    rw [upper, div_lt_div_iff₀ hden hi]
    exact_mod_cast Iff.rfl
  unfold holds
  split
  · rename_i hclosed
    simp only [Bool.and_eq_true, decide_eq_true_eq, ← lower_le, ← le_upper]
    exact ⟨fun h => ⟨h.1, h.2, by simp [hclosed]⟩, fun h => ⟨h.1, h.2⟩⟩
  · rename_i hclosed
    simp only [Bool.and_eq_true, decide_eq_true_eq, ← lower_lt, ← lt_upper]
    exact ⟨fun h => ⟨h.1.le, h.2.le, fun _ => h⟩, fun h => h.inside (by simpa using hclosed)⟩

/-- How many quarters of the distance to its upper neighbour a double reaches downwards. -/
def reach (mantissa : Nat) (exponent : Int) : Nat :=
  if mantissa == Binary64.fullMantissa && Binary64.leastExponent < exponent then 1 else 2

def quarter (exponent : Int) : ℚ := 2 ^ (exponent - 2)

theorem quarter_pos (exponent : Int) : 0 < quarter exponent := by
  unfold quarter
  positivity

theorem denominator_pos (mantissa : Nat) (exponent : Int) :
    0 < (around mantissa exponent).denominator := by
  simp only [around, Nat.pow_eq]
  split <;> positivity

theorem around_div (n : Nat) (exponent : Int) :
    ((n * if 0 ≤ exponent then Nat.pow 2 exponent.toNat else 1 : Nat) : ℚ) /
      (around mantissa exponent).denominator = n * quarter exponent := by
  have hquarter : quarter exponent = 2 ^ exponent / 4 := by
    rw [quarter, zpow_sub₀ (by norm_num)]
    norm_num
  rw [hquarter]
  simp only [around, Nat.pow_eq]
  split
  · rename_i hexponent
    have hpow : (2 : ℚ) ^ exponent = 2 ^ exponent.toNat := by
      rw [← zpow_natCast, Int.toNat_of_nonneg hexponent]
    rw [hpow]
    push_cast
    ring
  · rename_i hexponent
    have hpow : (2 : ℚ) ^ exponent = (2 ^ (-exponent).toNat)⁻¹ := by
      rw [← zpow_natCast, Int.toNat_of_nonneg (by omega), zpow_neg, inv_inv]
    rw [hpow]
    push_cast
    field_simp

theorem lower_around (mantissa : Nat) (exponent : Int) : (around mantissa exponent).lower =
    ((4 * mantissa - reach mantissa exponent : Nat) : ℚ) * quarter exponent :=
  around_div _ exponent

theorem upper_around (mantissa : Nat) (exponent : Int) : (around mantissa exponent).upper =
    ((4 * mantissa + 2 : Nat) : ℚ) * quarter exponent :=
  around_div _ exponent

theorem low_le_value (mantissa : Nat) (exponent : Int) :
    (around mantissa exponent).low ≤ (around mantissa exponent).value :=
  Nat.mul_le_mul_right _ (Nat.sub_le _ _)

theorem value_lt_high (mantissa : Nat) (exponent : Int) :
    (around mantissa exponent).value < (around mantissa exponent).high := by
  refine Nat.mul_lt_mul_of_pos_right (by omega) ?_
  simp only [Nat.pow_eq]
  split <;> positivity

theorem closed_around (mantissa : Nat) (exponent : Int) :
    (around mantissa exponent).closed = true ↔ mantissa % 2 = 0 := by
  simp [around]

-- ---------------------------------------------------------------------------
-- Neighbours
-- ---------------------------------------------------------------------------

section
variable {m m' : Nat} {e e' : Int}

theorem reach_le : reach m e ≤ 2 := by
  unfold reach
  split <;> decide

theorem quarter_le_half (h : e < e') : 2 * quarter e ≤ quarter e' := by
  have hstep : quarter e' = quarter e * 2 ^ (e' - e) := by
    rw [quarter, quarter, ← zpow_add₀ (by norm_num)]
    congr 1
    ring
  have htwo : (2 : ℚ) ≤ 2 ^ (e' - e) := by
    calc (2 : ℚ) = 2 ^ (1 : ℤ) := by norm_num
      _ ≤ 2 ^ (e' - e) := zpow_le_zpow_right₀ (by norm_num) (by omega)
  rw [hstep, mul_comm]
  exact mul_le_mul_of_nonneg_left htwo (quarter_pos e).le

/-- Above the least exponent the interval of a double begins no lower than where that of the largest
double of the exponent before ends. -/
theorem le_lower (h : IsNormal m e) (he : -1074 < e) : 2 ^ 54 - 1 ≤ 4 * m - reach m e := by
  have hfull : ¬m < 2 ^ 52 := fun hm => absurd (h.full hm) (by omega)
  unfold reach
  split
  · omega
  · rename_i hreach
    have hm : m ≠ 2 ^ 52 := by
      rintro rfl
      simp [Binary64.fullMantissa, Binary64.leastExponent, he] at hreach
    omega

/-- The interval of a double ends where that of a larger one begins, or below, and they have no end
in common that counts for both. -/
theorem upper_le_lower (h : IsNormal m e) (h' : IsNormal m' e')
    (hlt : e < e' ∨ e = e' ∧ m < m') :
    (around m e).upper ≤ (around m' e').lower ∧
      (m % 2 = 0 → m' % 2 = 0 → (around m e).upper < (around m' e').lower) := by
  have hquarter := quarter_pos e
  rw [upper_around, lower_around]
  rcases hlt with he | ⟨rfl, hm⟩
  · have hstart := le_lower h' (by have := h.exponent_ge; omega)
    have hm := h.mantissa_lt
    -- Both ends are compared with the middle between the two exponents.
    have hmiddle : ((2 ^ 54 - 1 : Nat) : ℚ) * (2 * quarter e) ≤
        ((4 * m' - reach m' e' : Nat) : ℚ) * quarter e' :=
      mul_le_mul (by exact_mod_cast hstart) (quarter_le_half he) (by positivity) (by positivity)
    have hend : ((4 * m + 2 : Nat) : ℚ) ≤ ((2 ^ 55 - 2 : Nat) : ℚ) := by
      exact_mod_cast (by omega : 4 * m + 2 ≤ 2 ^ 55 - 2)
    constructor
    · push_cast at hmiddle hend ⊢
      nlinarith
    · intro heven _
      have hend : ((4 * m + 2 : Nat) : ℚ) < ((2 ^ 55 - 2 : Nat) : ℚ) := by
        exact_mod_cast (by omega : 4 * m + 2 < 2 ^ 55 - 2)
      push_cast at hmiddle hend ⊢
      nlinarith
  · have hreach : reach m' e ≤ 2 := reach_le
    constructor
    · exact mul_le_mul_of_nonneg_right (by exact_mod_cast (by omega)) hquarter.le
    · intro heven heven'
      exact mul_lt_mul_of_pos_right (by exact_mod_cast (by omega)) hquarter

theorem not_contains_of_lt (h : IsNormal m e) (h' : IsNormal m' e')
    (hlt : e < e' ∨ e = e' ∧ m < m') {q : ℚ} (hq : (around m e).Contains q) :
    ¬(around m' e').Contains q := by
  intro hq'
  obtain ⟨hle, hstrict⟩ := upper_le_lower h h' hlt
  have hends : ¬(around m e).upper < (around m' e').lower := by
    have := hq.le_upper
    have := hq'.lower_le
    linarith
  cases hclosed : (around m e).closed with
  | false => linarith [(hq.inside hclosed).2, hq'.lower_le]
  | true =>
    cases hclosed' : (around m' e').closed with
    | false => linarith [hq.le_upper, (hq'.inside hclosed').1]
    | true =>
      have heven := (closed_around m e).mp hclosed
      have heven' := (closed_around m' e').mp hclosed'
      exact hends (hstrict heven heven')

/-- No rational rounds to two doubles. -/
theorem eq_of_contains (h : IsNormal m e) (h' : IsNormal m' e') {q : ℚ}
    (hq : (around m e).Contains q) (hq' : (around m' e').Contains q) : m = m' ∧ e = e' := by
  rcases lt_trichotomy e e' with he | he | he
  · exact absurd hq' (not_contains_of_lt h h' (.inl he) hq)
  · rcases lt_trichotomy m m' with hm | hm | hm
    · exact absurd hq' (not_contains_of_lt h h' (.inr ⟨he, hm⟩) hq)
    · exact ⟨hm, he⟩
    · exact absurd hq (not_contains_of_lt h' h (.inr ⟨he.symm, hm⟩) hq')
  · exact absurd hq (not_contains_of_lt h' h (.inl he) hq')

end

end Interval

end Lanewise.Decimal
