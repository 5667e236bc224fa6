import Lanewise.Decimal.Reading
import Lanewise.Proofs.Decimal.Interval
import Mathlib.Data.List.TakeWhile
import Mathlib.Data.Nat.Cast.Order.Field

/-!
# Shortest decimals round back

The decimal that is chosen for a finite double lies in the rounding interval of the double
(`shortest_contains`). A grid with a hit is found before the digits run out: the interval of a
double is wider than the distance between decimals of seventeen digits, so it cannot lie between
two of them.
-/

namespace Lanewise.Decimal

-- ---------------------------------------------------------------------------
-- Digits
-- ---------------------------------------------------------------------------

theorem digitsValue_append (a b : List Char) :
    digitsValue (a ++ b) = 10 ^ b.length * digitsValue a + digitsValue b := by
  change Nat.ofDigitChars 10 (a ++ b) 0 = _
  rw [Nat.ofDigitChars_append, Nat.ofDigitChars_eq_ofDigitChars_zero]
  rfl

theorem digitsValue_zeros (n : Nat) : digitsValue (List.replicate n '0') = 0 := by
  change Nat.ofDigitChars 10 (List.replicate n '0') 0 = 0
  simp

theorem digitsValue_toDigits (n : Nat) : digitsValue (Nat.toDigits 10 n) = n :=
  Nat.ofDigitChars_ten_toDigits

def Digits.value (d : Digits) : ℚ :=
  digitsValue d.digits * 10 ^ (d.exponent - d.digits.length + 1)

theorem exists_trailingZeros (digits : List Char) : ∃ n,
    digits = (digits.reverse.dropWhile (· == '0')).reverse ++ List.replicate n '0' := by
  have hzeros := List.eq_replicate_of_mem (l := digits.reverse.takeWhile (· == '0')) (a := '0')
    fun c hc => by simpa using List.mem_takeWhile_imp hc
  refine ⟨(digits.reverse.takeWhile (· == '0')).length, ?_⟩
  conv_lhs => rw [← List.reverse_reverse digits,
    ← List.takeWhile_append_dropWhile (p := (· == '0')) (l := digits.reverse), List.reverse_append,
    hzeros, List.reverse_replicate]

/-- The zeros that are cut are made up for by the exponent. -/
theorem digitsValue_dropTrailingZeros (digits : List Char) :
    (digitsValue (dropTrailingZeros digits) : ℚ) *
      10 ^ ((digits.length : Int) - (dropTrailingZeros digits).length) = digitsValue digits := by
  obtain ⟨n, hn⟩ := exists_trailingZeros digits
  unfold dropTrailingZeros
  split
  · rename_i hnil
    rw [hnil, List.nil_append] at hn
    rw [hn, digitsValue_zeros]
    have hzero : digitsValue ['0'] = 0 := by decide
    simp [hzero]
  · rename_i hkept
    generalize (digits.reverse.dropWhile (· == '0')).reverse = kept at hn hkept ⊢
    rw [hn, digitsValue_append, digitsValue_zeros]
    simp [mul_comm]

theorem value_ofGrid (count size : Nat) (first : Int) :
    (Digits.ofGrid count size first).value = count * 10 ^ (first - size + 1) := by
  have hcount := digitsValue_dropTrailingZeros (Nat.toDigits 10 count)
  rw [digitsValue_toDigits] at hcount
  rw [← hcount, Digits.value, Digits.ofGrid, mul_assoc, ← zpow_add₀ (by norm_num)]
  congr 2
  ring

-- ---------------------------------------------------------------------------
-- Grids
-- ---------------------------------------------------------------------------

theorem powerOfTen_pos (k : Int) : 0 < (powerOfTen k).1 ∧ 0 < (powerOfTen k).2 := by
  simp only [powerOfTen, Nat.pow_eq]
  split <;> simp

theorem powerOfTen_div (k : Int) : ((powerOfTen k).1 : ℚ) / (powerOfTen k).2 = 10 ^ k := by
  simp only [powerOfTen, Nat.pow_eq]
  split
  · rename_i hk
    obtain ⟨n, rfl⟩ := Int.eq_ofNat_of_zero_le hk
    simp
  · rename_i hk
    obtain ⟨n, hn⟩ : ∃ n : Nat, k = -n := ⟨k.natAbs, by omega⟩
    simp [hn]

namespace Interval

variable {i : Interval} {first : Int} {size : Nat}

theorem onGrid?_eq_some (h : i.onGrid? first size = some d) :
    ∃ count, i.holds (count * (powerOfTen (first - size + 1)).1)
        (powerOfTen (first - size + 1)).2 = true ∧ d = .ofGrid count size first := by
  unfold onGrid? at h
  dsimp only at h
  split at h
  · rename_i hlow
    simp only [Bool.and_eq_true] at hlow
    exact ⟨_, hlow.1, (Option.some.inj h).symm⟩
  split at h
  · exact ⟨_, ‹_›, (Option.some.inj h).symm⟩
  · cases h

theorem onGrid?_contains (hi : 0 < i.denominator) (h : i.onGrid? first size = some d) :
    i.Contains d.value := by
  obtain ⟨count, hholds, rfl⟩ := onGrid?_eq_some h
  have hcontains := (holds_iff hi (powerOfTen_pos _).2).mp hholds
  rwa [Nat.cast_mul, mul_div_assoc, powerOfTen_div, ← value_ofGrid] at hcontains

/-- An interval that is wider than the grid holds one of the neighbours of its value. -/
theorem onGrid?_isSome (hi : 0 < i.denominator) (hlow : i.low ≤ i.value) (hhigh : i.value < i.high)
    (hwide : (10 : ℚ) ^ (first - size + 1) < i.upper - i.lower) :
    (i.onGrid? first size).isSome = true := by
  obtain ⟨hnum, hden⟩ := powerOfTen_pos (first - size + 1)
  have hpower := powerOfTen_div (first - size + 1)
  unfold onGrid?
  dsimp only
  generalize (powerOfTen (first - size + 1)).1 = unitNum at hnum hpower ⊢
  generalize (powerOfTen (first - size + 1)).2 = unitDen at hden hpower ⊢
  generalize (10 : ℚ) ^ (first - size + 1) = unit at hwide hpower
  generalize hbelow : i.value * unitDen / (i.denominator * unitNum) = below
  have hi' : (0 : ℚ) < i.denominator := by exact_mod_cast hi
  have hden' : (0 : ℚ) < unitDen := by exact_mod_cast hden
  -- The value lies between its neighbours on the grid.
  have hle : below * unit ≤ i.value / i.denominator := by
    have hfloor := Nat.div_mul_le_self (i.value * unitDen) (i.denominator * unitNum)
    rw [hbelow] at hfloor
    rw [← hpower, ← mul_div_assoc, div_le_div_iff₀ hden' hi']
    exact_mod_cast (by linarith : below * unitNum * i.denominator ≤ i.value * unitDen)
  have hlt : i.value / i.denominator < (below + 1) * unit := by
    have hfloor := Nat.lt_mul_div_succ (i.value * unitDen) (Nat.mul_pos hi hnum)
    rw [hbelow] at hfloor
    rw [← hpower, ← mul_div_assoc, div_lt_div_iff₀ hi' hden']
    exact_mod_cast (by linarith : i.value * unitDen < (below + 1) * unitNum * i.denominator)
  have hlower : i.lower ≤ i.value / i.denominator := by
    rw [lower]
    gcongr
  have hupper : i.value / i.denominator < i.upper := by
    rw [upper]
    gcongr
  -- So if neither of them lies inside, both ends of the interval lie between them.
  have hfits : i.holds (below * unitNum) unitDen = true ∨
      i.holds ((below + 1) * unitNum) unitDen = true := by
    rw [holds_iff hi hden, holds_iff hi hden]
    push_cast
    rw [mul_div_assoc, mul_div_assoc, hpower]
    by_cases hbetween : i.lower < below * unit
    · exact .inl (.of_inside hbetween (hle.trans_lt hupper))
    · exact .inr (.of_inside (hlower.trans_lt hlt) (by linarith))
  split
  · rfl
  split
  · rfl
  · simp_all

theorem shortestFrom_eq_some (h : size ≤ wanted) (hfuel : wanted < size + fuel)
    (hwanted : (i.onGrid? first wanted).isSome = true) :
    ∃ size', i.onGrid? first size' = some (i.shortestFrom first fuel size) := by
  induction fuel generalizing size with
  | zero => omega
  | succ fuel ih =>
    unfold shortestFrom
    split
    · exact ⟨size, ‹_›⟩
    · rename_i hnone
      have hne : size ≠ wanted := by
        rintro rfl
        rw [hnone] at hwanted
        cases hwanted
      exact ih (by omega) (by omega)

end Interval

-- ---------------------------------------------------------------------------
-- The first digit
-- ---------------------------------------------------------------------------

theorem le_leadingZeros (h : den ≤ num * 10 ^ fuel) :
    den ≤ num * 10 ^ leadingZeros fuel num den := by
  induction fuel generalizing num with
  | zero => exact h
  | succ fuel ih =>
    unfold leadingZeros
    split
    · simpa
    · have hnext : den ≤ num * 10 * 10 ^ fuel := by
        rwa [mul_assoc, ← pow_succ']
      rw [pow_succ', ← mul_assoc]
      exact ih hnext

theorem pow_length_toDigits_le (hn : 0 < n) : 10 ^ ((Nat.toDigits 10 n).length - 1) ≤ n := by
  by_contra hlt
  have hlength : 0 < (Nat.toDigits 10 n).length - 1 := by
    by_contra hzero
    rw [Nat.eq_zero_of_not_pos hzero, pow_zero] at hlt
    omega
  have := (Nat.length_toDigits_le_iff (by decide) hlength).mpr (not_le.mp hlt)
  omega

theorem decimalExponent_le (hden : 0 < den) (hsmall : den ≤ num * 10 ^ 400) :
    (10 : ℚ) ^ decimalExponent num den ≤ num / den := by
  have hden' : (0 : ℚ) < den := by exact_mod_cast hden
  unfold decimalExponent
  split
  · rename_i hle
    have hdigits := pow_length_toDigits_le (Nat.div_pos hle hden)
    have hlength := Nat.length_toDigits_pos (b := 10) (n := num / den)
    have hexponent : ((Nat.toDigits 10 (num / den)).length : Int) - 1 =
        ((Nat.toDigits 10 (num / den)).length - 1 : Nat) := by omega
    rw [hexponent, zpow_natCast]
    calc ((10 : ℚ) ^ ((Nat.toDigits 10 (num / den)).length - 1)) ≤ (num / den : Nat) := by
          exact_mod_cast hdigits
      _ ≤ num / den := Nat.cast_div_le
  · have hzeros := le_leadingZeros hsmall
    rw [zpow_neg, zpow_natCast, inv_eq_one_div, div_le_div_iff₀ (by positivity) hden', one_mul]
    exact_mod_cast hzeros

-- ---------------------------------------------------------------------------
-- Doubles
-- ---------------------------------------------------------------------------

section
variable {m : Nat} {e : Int}

/-- The grid of seventeen digits is finer than the interval of any double. -/
theorem grid_lt_width (h : IsNormal m e) {unit : ℚ}
    (hunit : unit * 10 ^ 16 ≤ (4 * m : Nat) * Interval.quarter e) :
    unit < (Interval.around m e).upper - (Interval.around m e).lower := by
  have hm := h.mantissa_lt
  have hquarter := Interval.quarter_pos e
  have hcount : 4 * m + 10 ^ 16 * (4 * m - Interval.reach m e) < 10 ^ 16 * (4 * m + 2) := by
    unfold Interval.reach
    split
    · rename_i hfull
      simp only [Bool.and_eq_true, beq_iff_eq, Binary64.fullMantissa, Nat.pow_eq] at hfull
      omega
    · omega
  rw [Interval.upper_around, Interval.lower_around]
  have hcount' : ((4 * m : Nat) : ℚ) + 10 ^ 16 * (4 * m - Interval.reach m e : Nat) <
      10 ^ 16 * (4 * m + 2 : Nat) := by
    exact_mod_cast hcount
  nlinarith

theorem value_around (m : Nat) (e : Int) : ((Interval.around m e).value : ℚ) /
    (Interval.around m e).denominator = (4 * m : Nat) * Interval.quarter e :=
  Interval.around_div _ e

/-- No double but zero is so small that the search for its first digit gives up. -/
theorem denominator_le (h : IsNormal m e) (hm : m ≠ 0) :
    (Interval.around m e).denominator ≤ (Interval.around m e).value * 10 ^ 400 := by
  have hleast (steps : Nat) (hsteps : (-e).toNat ≤ 3 * steps) : 2 ^ (-e).toNat ≤ 10 ^ steps :=
    calc 2 ^ (-e).toNat ≤ 2 ^ (3 * steps) := Nat.pow_le_pow_right (by decide) hsteps
      _ = (2 ^ 3) ^ steps := pow_mul 2 3 steps
      _ ≤ 10 ^ steps := Nat.pow_le_pow_left (by decide) steps
  have hm : 4 ≤ 4 * m := by omega
  simp only [Interval.around, Nat.pow_eq]
  split
  · have hpos : 1 ≤ 2 ^ e.toNat * 10 ^ 400 := Nat.one_le_iff_ne_zero.mpr (by positivity)
    calc 4 * 1 ≤ 4 * m * (2 ^ e.toNat * 10 ^ 400) := Nat.mul_le_mul hm hpos
      _ = 4 * m * 2 ^ e.toNat * 10 ^ 400 := (mul_assoc _ _ _).symm
  · have hexponent := h.exponent_ge
    rw [mul_one]
    exact Nat.mul_le_mul hm (hleast 400 (by omega))

theorem shortest_contains (h : IsNormal m e) :
    (Interval.around m e).Contains (shortest m e).value := by
  have hden := Interval.denominator_pos m e
  unfold shortest
  split
  · rename_i hzero
    obtain rfl := eq_of_beq hzero
    have hvalue : (⟨['0'], 0⟩ : Digits).value = 0 := by
      have hzero : digitsValue ['0'] = 0 := by decide
      simp [Digits.value, hzero]
    have hquarter := Interval.quarter_pos e
    refine hvalue ▸ ⟨?_, ?_, fun hopen => absurd hopen (by simp [Interval.around])⟩
    · simp [Interval.lower_around]
    · rw [Interval.upper_around]
      positivity
  · rename_i hm
    have hm : m ≠ 0 := by simpa using hm
    have hfirst := decimalExponent_le hden (denominator_le h hm)
    dsimp only
    generalize decimalExponent (Interval.around m e).value (Interval.around m e).denominator =
      first at hfirst ⊢
    have hunit : (10 : ℚ) ^ (first - (17 : Nat) + 1) * 10 ^ 16 ≤
        (4 * m : Nat) * Interval.quarter e := by
      rw [← value_around, ← zpow_natCast, ← zpow_add₀ (by norm_num)]
      convert hfirst using 2
      push_cast
      ring
    have hhit := Interval.onGrid?_isSome hden (Interval.low_le_value m e)
      (Interval.value_lt_high m e) (grid_lt_width h hunit)
    obtain ⟨size, hsize⟩ : ∃ size, (Interval.around m e).onGrid? first size =
        some ((Interval.around m e).shortestFrom first 17 1) :=
      Interval.shortestFrom_eq_some (by decide) (by decide) hhit
    exact Interval.onGrid?_contains hden hsize

end

end Lanewise.Decimal
