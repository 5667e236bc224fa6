import Lanewise.Decimal.Layout
import Lanewise.Proofs.Decimal.Shortest

/-!
# Written numbers read back

A number keeps its value when its digits are laid out and read again, with an exponent or without
one (`unsigned?_write`). The value lies in the rounding interval of one double only, so a double is
known from its text (`text_injective`).
-/

namespace Lanewise.Decimal

-- ---------------------------------------------------------------------------
-- Proper digits
-- ---------------------------------------------------------------------------

structure IsProper (digits : List Char) : Prop where
  ne_nil : digits ≠ []
  isDigit : ∀ c ∈ digits, c.isDigit = true

theorem isProper_toDigits (n : Nat) : IsProper (Nat.toDigits 10 n) :=
  ⟨Nat.toDigits_ne_nil, fun _ => Nat.isDigit_of_mem_toDigits (by decide) (by decide)⟩

theorem isDigit_zeros (h : c ∈ List.replicate n '0') : c.isDigit = true := by
  rw [List.eq_of_mem_replicate h]
  rfl

theorem IsProper.padded (h : IsProper digits) (n : Nat) :
    IsProper (List.replicate n '0' ++ digits) :=
  ⟨by simp [h.ne_nil], fun c hc => (List.mem_append.mp hc).elim isDigit_zeros (h.isDigit c)⟩

theorem IsProper.filled (h : IsProper digits) (n : Nat) :
    IsProper (digits ++ List.replicate n '0') :=
  ⟨by simp [h.ne_nil], fun c hc => (List.mem_append.mp hc).elim (h.isDigit c) isDigit_zeros⟩

theorem IsProper.dropTrailingZeros (h : IsProper digits) : IsProper (dropTrailingZeros digits) := by
  obtain ⟨n, hn⟩ := exists_trailingZeros digits
  unfold Decimal.dropTrailingZeros
  split
  · exact ⟨by simp, by simp⟩
  · rename_i hkept
    refine ⟨hkept, fun c hc => h.isDigit c ?_⟩
    rw [hn]
    exact List.mem_append_left _ hc

theorem isProper_ofGrid : IsProper (Digits.ofGrid count size first).digits :=
  (isProper_toDigits count).dropTrailingZeros

theorem isProper_shortestFrom (i : Interval) (first : Int) (fuel size : Nat) :
    IsProper (i.shortestFrom first fuel size).digits := by
  induction fuel generalizing size with
  | zero => exact isProper_ofGrid
  | succ fuel ih =>
    unfold Interval.shortestFrom
    split
    · rename_i hsome
      obtain ⟨count, -, rfl⟩ := Interval.onGrid?_eq_some hsome
      exact isProper_ofGrid
    · exact ih (size + 1)

theorem isProper_shortest (mantissa : Nat) (exponent : Int) :
    IsProper (shortest mantissa exponent).digits := by
  unfold shortest
  split
  · exact ⟨by simp, by simp⟩
  · exact isProper_shortestFrom _ _ _ _

-- ---------------------------------------------------------------------------
-- Reading
-- ---------------------------------------------------------------------------

def EndsDigits (tail : List Char) : Prop := ∀ c ∈ tail.head?, c.isDigit = false

theorem endsDigits_nil : EndsDigits [] := by simp [EndsDigits]

section
variable {whole fraction tail : List Char}

theorem takeWhile_digits (hwhole : ∀ c ∈ whole, c.isDigit = true) (htail : EndsDigits tail) :
    (whole ++ tail).takeWhile Char.isDigit = whole := by
  rw [List.takeWhile_append_of_pos hwhole]
  cases tail with
  | nil => simp
  | cons c tail => simp [htail c rfl]

theorem dropWhile_digits (hwhole : ∀ c ∈ whole, c.isDigit = true) (htail : EndsDigits tail) :
    (whole ++ tail).dropWhile Char.isDigit = tail := by
  rw [List.dropWhile_append_of_pos hwhole]
  cases tail with
  | nil => simp
  | cons c tail => simp [htail c rfl]

theorem unsigned?_point (hwhole : IsProper whole) (hfraction : ∀ c ∈ fraction, c.isDigit = true)
    (htail : EndsDigits tail) (hexponent : exponentPart? tail = some exponent) :
    unsigned? (whole ++ '.' :: (fraction ++ tail)) =
      some (digitsValue (whole ++ fraction), exponent - fraction.length) := by
  have hpoint : EndsDigits ('.' :: (fraction ++ tail)) := by
    rintro _ ⟨⟩
    rfl
  unfold unsigned?
  rw [takeWhile_digits hwhole.isDigit hpoint, dropWhile_digits hwhole.isDigit hpoint]
  simp [takeWhile_digits hfraction htail, dropWhile_digits hfraction htail, hexponent,
    hwhole.ne_nil]

theorem unsigned?_whole (hwhole : IsProper whole) (htail : EndsDigits tail)
    (hpoint : tail.head? ≠ some '.') (hexponent : exponentPart? tail = some exponent) :
    unsigned? (whole ++ tail) = some (digitsValue whole, exponent) := by
  unfold unsigned?
  rw [takeWhile_digits hwhole.isDigit htail, dropWhile_digits hwhole.isDigit htail]
  split
  rename_i fraction rest heq
  split at heq
  · simp at hpoint
  · obtain ⟨rfl, rfl⟩ := Prod.mk.inj heq
    simp [hexponent, hwhole.ne_nil]

end

theorem exponentPart?_exponentText (layout : Layout) (exponent : Int) :
    exponentPart? (layout.exponentText exponent) = some exponent := by
  have hdigits := (isProper_toDigits exponent.natAbs).padded
    (layout.exponentWidth - (Nat.toDigits 10 exponent.natAbs).length)
  have hvalue : digitsValue (List.replicate
      (layout.exponentWidth - (Nat.toDigits 10 exponent.natAbs).length) '0' ++
        Nat.toDigits 10 exponent.natAbs) = exponent.natAbs := by
    rw [digitsValue_append, digitsValue_zeros, digitsValue_toDigits, mul_zero, zero_add]
  unfold Layout.exponentText
  dsimp only
  generalize List.replicate (layout.exponentWidth - (Nat.toDigits 10 exponent.natAbs).length) '0' ++
    Nat.toDigits 10 exponent.natAbs = digits at hdigits hvalue ⊢
  have hall : digits.all Char.isDigit = true := List.all_eq_true.mpr hdigits.isDigit
  split
  · rename_i hnegative
    simp [exponentPart?, hdigits.ne_nil, hall, hvalue, abs_of_neg hnegative]
  · rename_i hnegative
    simp [exponentPart?, hdigits.ne_nil, hall, hvalue, not_lt.mp hnegative]

theorem head?_exponentText (layout : Layout) (exponent : Int) :
    (layout.exponentText exponent).head? = some 'e' := rfl

theorem endsDigits_exponentText (layout : Layout) (exponent : Int) :
    EndsDigits (layout.exponentText exponent) := by
  rintro _ ⟨⟩
  rfl

-- ---------------------------------------------------------------------------
-- Layouts
-- ---------------------------------------------------------------------------

theorem unsigned?_pointAfter {digits tail : List Char} (hdigits : IsProper digits) (n : Nat)
    (htail : EndsDigits tail) (hpoint : tail.head? ≠ some '.')
    (hexponent : exponentPart? tail = some exponent) :
    ∃ mantissa shift, unsigned? (pointAfter (n + 1) digits ++ tail) = some (mantissa, shift) ∧
      (mantissa : ℚ) * 10 ^ shift =
        digitsValue digits * 10 ^ (exponent + n - digits.length + 1) := by
  have hdigit := hdigits.isDigit
  unfold pointAfter
  dsimp only
  split
  · rename_i hdrop
    have hlength : digits.length ≤ n + 1 := List.drop_eq_nil_iff.mp hdrop
    rw [List.take_of_length_le hlength]
    refine ⟨_, _, unsigned?_whole (hdigits.filled _) htail hpoint hexponent, ?_⟩
    rw [digitsValue_append, digitsValue_zeros, List.length_replicate]
    push_cast
    rw [add_zero, mul_comm ((10 : ℚ) ^ _), mul_assoc, ← zpow_natCast, ← zpow_add₀ (by norm_num)]
    congr 2
    omega
  · rename_i hdrop
    have hlength : n + 1 < digits.length := by
      by_contra hle
      exact hdrop (List.drop_eq_nil_iff.mpr (not_lt.mp hle))
    have hzeros : n + 1 - digits.length = 0 := by omega
    have hwhole : IsProper (digits.take (n + 1)) :=
      ⟨by simp [hdigits.ne_nil], fun c hc => hdigit c (List.mem_of_mem_take hc)⟩
    rw [hzeros, List.replicate_zero, List.append_nil, List.append_assoc, List.cons_append]
    refine ⟨_, _, unsigned?_point hwhole (fun c hc => hdigit c (List.mem_of_mem_drop hc)) htail
      hexponent, ?_⟩
    rw [List.take_append_drop, List.length_drop]
    congr 2
    omega

/-- Numbers are read with the value that was written. -/
theorem unsigned?_write (layout : Layout) {d : Digits} (hd : IsProper d.digits) :
    ∃ mantissa shift, unsigned? (layout.write d) = some (mantissa, shift) ∧
      (mantissa : ℚ) * 10 ^ shift = d.value := by
  unfold Layout.write
  split
  · obtain ⟨mantissa, shift, hread, hvalue⟩ := unsigned?_pointAfter hd 0
      (endsDigits_exponentText layout d.exponent) (by simp [head?_exponentText])
      (exponentPart?_exponentText layout d.exponent)
    refine ⟨mantissa, shift, hread, ?_⟩
    simpa [Digits.value] using hvalue
  split
  · rename_i hnegative
    have hread : unsigned? (['0'] ++ '.' :: (List.replicate ((-d.exponent).toNat - 1) '0' ++
        d.digits ++ [])) = some (_, _) :=
      unsigned?_point ⟨by simp, by simp⟩ (hd.padded _).isDigit endsDigits_nil rfl
    rw [List.append_nil] at hread
    refine ⟨_, _, hread, ?_⟩
    have hzero : digitsValue ['0'] = 0 := by decide
    rw [digitsValue_append, digitsValue_append, digitsValue_zeros, hzero, mul_zero, mul_zero,
      zero_add, zero_add, Digits.value, List.length_append, List.length_replicate]
    congr 2
    omega
  · rename_i hnonneg
    obtain ⟨n, hn⟩ := Int.eq_ofNat_of_zero_le (not_lt.mp hnonneg)
    obtain ⟨mantissa, shift, hread, hvalue⟩ :=
      unsigned?_pointAfter hd n endsDigits_nil (by simp) rfl
    refine ⟨mantissa, shift, ?_, ?_⟩
    · rw [hn]
      simpa using hread
    · simpa [Digits.value, hn] using hvalue

-- ---------------------------------------------------------------------------
-- Texts
-- ---------------------------------------------------------------------------

theorem pointAfter_eq_cons {digits : List Char} (hdigits : IsProper digits) (n : Nat) :
    ∃ c cs, pointAfter (n + 1) digits = c :: cs ∧ c.isDigit = true := by
  obtain ⟨c, cs, rfl⟩ := List.exists_cons_of_ne_nil hdigits.ne_nil
  have hc := hdigits.isDigit c List.mem_cons_self
  unfold pointAfter
  dsimp only
  split
  · exact ⟨c, _, rfl, hc⟩
  · exact ⟨c, _, rfl, hc⟩

theorem write_eq_cons (layout : Layout) {d : Digits} (hd : IsProper d.digits) :
    ∃ c cs, layout.write d = c :: cs ∧ c.isDigit = true := by
  unfold Layout.write
  split
  · obtain ⟨c, cs, hcs, hc⟩ := pointAfter_eq_cons hd 0
    exact ⟨c, _, by rw [hcs, List.cons_append], hc⟩
  split
  · exact ⟨'0', _, rfl, rfl⟩
  · exact pointAfter_eq_cons hd _

theorem written?_sign (h : unsigned? (c :: cs) = some (mantissa, exponent))
    (hc : c.isDigit = true) (negative : Bool) :
    written? ((if negative then ['-'] else []) ++ c :: cs) =
      some ⟨negative, mantissa, exponent⟩ := by
  cases negative with
  | true => simp [written?, h]
  | false =>
    unfold written?
    split
    rename_i negative body heq
    split at heq
    · simp_all
    · simp_all
    · obtain ⟨rfl, rfl⟩ := Prod.mk.inj heq
      simp [h]

theorem toList_int (n : Int) : (toString n).toList =
    (if decide (n < 0) then ['-'] else []) ++ Nat.toDigits 10 n.natAbs := by
  cases n with
  | ofNat n =>
    change n.repr.toList = _
    simp
  | negSucc n =>
    change ("-" ++ (n + 1).repr).toList = _
    simp [Int.negSucc_lt_zero]

theorem int_text_injective {n m : Int} (h : toString n = toString m) : n = m := by
  have read (n : Int) : written? (toString n).toList = some ⟨decide (n < 0), n.natAbs, 0⟩ := by
    have hdigits := isProper_toDigits n.natAbs
    have hread : unsigned? (Nat.toDigits 10 n.natAbs ++ []) = some (_, 0) :=
      unsigned?_whole hdigits endsDigits_nil (by simp) rfl
    rw [List.append_nil, digitsValue_toDigits] at hread
    obtain ⟨c, cs, hcs⟩ := List.exists_cons_of_ne_nil hdigits.ne_nil
    rw [toList_int, hcs]
    rw [hcs] at hread hdigits
    exact written?_sign hread (hdigits.isDigit c List.mem_cons_self) _
  have hwritten := read n
  rw [h, read m] at hwritten
  obtain ⟨hsign, habs, -⟩ := Written.mk.inj (Option.some.inj hwritten)
  simp only [decide_eq_decide] at hsign
  omega

namespace Binary64

variable {x y : Binary64}

theorem written?_text_finite (h : x.view = .finite negative mantissa exponent) :
    ∃ w, written? x.text.toList = some w ∧ w.negative = negative ∧
      (w.mantissa : ℚ) * 10 ^ w.exponent = (shortest mantissa exponent).value := by
  have hproper := isProper_shortest mantissa exponent
  obtain ⟨m, e, hread, hvalue⟩ := unsigned?_write Layout.literal hproper
  obtain ⟨c, cs, hcs, hc⟩ := write_eq_cons Layout.literal hproper
  refine ⟨⟨negative, m, e⟩, ?_, rfl, hvalue⟩
  rw [hcs] at hread
  rw [text, h]
  dsimp only
  rw [String.toList_ofList, hcs]
  exact written?_sign hread hc negative

theorem written?_text_infinite (h : x.view = .infinite negative) :
    written? x.text.toList = none := by
  rw [text, h]
  cases negative <;> decide

/-- A double is known from its text. What is not a number has several forms, which have one text. -/
theorem text_injective (hx : x.view ≠ .nan) (hy : y.view ≠ .nan) (h : x.text = y.text) :
    x = y := by
  suffices hview : x.view = y.view by
    rw [← double_view hx, hview, double_view hy]
  cases hxview : x.view with
  | nan => exact absurd hxview hx
  | infinite negative =>
    have hxread := written?_text_infinite hxview
    cases hyview : y.view with
    | nan => exact absurd hyview hy
    | infinite negative' =>
      rw [text, text, hxview, hyview] at h
      cases negative <;> cases negative' <;> simp_all
    | finite negative' m e =>
      obtain ⟨w, hw, -⟩ := written?_text_finite hyview
      rw [← h, hxread] at hw
      cases hw
  | finite negative m e =>
    obtain ⟨w, hw, rfl, hvalue⟩ := written?_text_finite hxview
    cases hyview : y.view with
    | nan => exact absurd hyview hy
    | infinite negative' =>
      rw [h, written?_text_infinite hyview] at hw
      cases hw
    | finite negative' m' e' =>
      obtain ⟨w', hw', rfl, hvalue'⟩ := written?_text_finite hyview
      obtain rfl : w = w' := by
        rw [h, hw'] at hw
        exact (Option.some.inj hw).symm
      have hnormal := view_isNormal hxview
      have hnormal' := view_isNormal hyview
      have hcontains := shortest_contains hnormal
      have hcontains' := shortest_contains hnormal'
      rw [← hvalue, hvalue'] at hcontains
      obtain ⟨rfl, rfl⟩ := Interval.eq_of_contains hnormal hnormal' hcontains hcontains'
      rfl

end Binary64

-- ---------------------------------------------------------------------------
-- Lines
-- ---------------------------------------------------------------------------

theorem IsProper.newline_notMem (h : IsProper digits) : '\n' ∉ digits := by
  intro hc
  cases h.isDigit _ hc

theorem newline_notMem_pointAfter {digits : List Char} (h : IsProper digits) (n : Nat) :
    '\n' ∉ pointAfter n digits := by
  have hdigits := h.newline_notMem
  have htake : '\n' ∉ digits.take n := fun hc => hdigits (List.mem_of_mem_take hc)
  have hdrop : '\n' ∉ digits.drop n := fun hc => hdigits (List.mem_of_mem_drop hc)
  unfold pointAfter
  dsimp only
  split <;> simp [htake, hdrop]

theorem newline_notMem_write (layout : Layout) {d : Digits} (hd : IsProper d.digits) :
    '\n' ∉ layout.write d := by
  have hdigits := hd.newline_notMem
  unfold Layout.write
  split
  · have hexponent := (isProper_toDigits d.exponent.natAbs).newline_notMem
    have hsign : '\n' ≠ if d.exponent < 0 then '-' else '+' := by split <;> decide
    simp [newline_notMem_pointAfter hd, Layout.exponentText, hexponent, hsign]
  split
  · simp [hdigits]
  · exact newline_notMem_pointAfter hd _

theorem newline_notMem_int (n : Int) : '\n' ∉ (toString n).toList := by
  have hdigits := (isProper_toDigits n.natAbs).newline_notMem
  rw [toList_int, List.mem_append, not_or]
  refine ⟨?_, hdigits⟩
  split <;> decide

theorem Binary64.newline_notMem_text (x : Binary64) : '\n' ∉ x.text.toList := by
  unfold text
  split
  · decide
  · split <;> decide
  · have hwrite := newline_notMem_write Layout.literal (isProper_shortest ‹Nat› ‹Int›)
    rw [String.toList_ofList, List.mem_append, not_or]
    refine ⟨?_, hwrite⟩
    split <;> decide

end Lanewise.Decimal
