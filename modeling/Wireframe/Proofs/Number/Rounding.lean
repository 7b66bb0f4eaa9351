import Wireframe.Number.Binary64

/-!
# Rounding is monotone

A greater quotient is never rounded to a lesser number. Within one exponent this is
`roundQuotient_mono`; from one exponent to the next it holds because significands end where those of
the next exponent begin (`hiddenBit_le_significand`).

Main statements: `Binary64.units_ofQuotient_mono` and, for products, `Binary64.units_mul_mono`.
Which whole numbers are rounded to a finite one follows from the two at the border
(`isSome_ofInt?_iff`).
-/
namespace Wireframe

theorem roundQuotient_mono {m n : Nat} (den : Nat) (h : m ≤ n) :
    roundQuotient m den ≤ roundQuotient n den := by
  have hdiv : m / den ≤ n / den := Nat.div_le_div_right h
  rcases Nat.lt_or_ge (m / den) (n / den) with hlt | hge
  · have hm := roundQuotient_le m den
    have hn := roundQuotient_ge n den
    omega
  · -- With one floor, the remainders are in the order of the numerators.
    have hfloor : m / den = n / den := Nat.le_antisymm hdiv hge
    have hm := Nat.div_add_mod m den
    have hn := Nat.div_add_mod n den
    rw [hfloor] at hm
    have hmod : m % den ≤ n % den := by omega
    unfold roundQuotient
    simp only [hfloor, Bool.or_eq_true, Bool.and_eq_true, decide_eq_true_eq]
    split <;> split <;> omega

theorem roundQuotient_zero_left (den : Nat) : roundQuotient 0 den = 0 := by
  rcases Nat.eq_zero_or_pos den with rfl | h
  · rfl
  · simp [roundQuotient, h]

namespace Magnitude

/-- The number of units that `num / den` is rounded to, however great. -/
def roundedUnits (num den : Nat) : Nat := significand num den * Nat.pow 2 (excessBits num den)

/-- Where bits are cut off, a significand has all its bits. -/
theorem hiddenBit_le_significand {num den : Nat} (h : 0 < excessBits num den) :
    hiddenBit ≤ significand num den := by
  have hbit : hiddenBit = 2 ^ 52 := by decide
  have hlog : (num / den).log2 = excessBits num den + 52 := by
    unfold excessBits at *
    omega
  have hne : num / den ≠ 0 := by
    intro hzero
    rw [hzero, Nat.log2_zero] at hlog
    omega
  have hpow : 2 ^ (excessBits num den + 52) ≤ num / den := hlog ▸ Nat.log2_self_le hne
  refine Nat.le_trans ?_ (roundQuotient_ge num (den * Nat.pow 2 (excessBits num den)))
  rw [hbit, ← Nat.div_div_eq_div_mul, Nat.pow_eq, Nat.le_div_iff_mul_le (Nat.two_pow_pos _),
    ← Nat.pow_add, Nat.add_comm]
  exact hpow

theorem excessBits_mono {m n : Nat} (den : Nat) (h : m ≤ n) :
    excessBits m den ≤ excessBits n den := by
  have hlog : (m / den).log2 ≤ (n / den).log2 := by
    rcases Nat.eq_zero_or_pos (m / den) with hzero | hpos
    · rw [hzero, Nat.log2_zero]
      exact Nat.zero_le _
    · have hdiv : m / den ≤ n / den := Nat.div_le_div_right h
      rw [Nat.le_log2 (by omega)]
      exact Nat.le_trans (Nat.log2_self_le (by omega)) hdiv
  unfold excessBits
  omega

theorem roundedUnits_mono {m n : Nat} (den : Nat) (h : m ≤ n) :
    roundedUnits m den ≤ roundedUnits n den := by
  unfold roundedUnits
  rcases Nat.eq_or_lt_of_le (excessBits_mono den h) with heq | hlt
  · unfold significand
    rw [heq]
    exact Nat.mul_le_mul_right _ (roundQuotient_mono _ h)
  · have hm : significand m den ≤ 2 * hiddenBit := significand_le m den
    have hn : hiddenBit ≤ significand n den := hiddenBit_le_significand (by omega)
    have hpow : 2 * 2 ^ excessBits m den ≤ 2 ^ excessBits n den := by
      rw [← Nat.pow_succ']
      exact Nat.pow_le_pow_right (by decide) hlt
    rw [Nat.pow_eq, Nat.pow_eq]
    calc significand m den * 2 ^ excessBits m den
        ≤ 2 * hiddenBit * 2 ^ excessBits m den := Nat.mul_le_mul_right _ hm
      _ = hiddenBit * (2 * 2 ^ excessBits m den) := by
        rw [Nat.mul_comm 2 hiddenBit, Nat.mul_assoc]
      _ ≤ significand n den * 2 ^ excessBits n den := Nat.mul_le_mul hn hpow

theorem ofQuotient_zero_left (den : Nat) : ofQuotient 0 den = some .zero := by
  have hunits : significand 0 den * Nat.pow 2 (excessBits 0 den) = 0 := by
    rw [significand, roundQuotient_zero_left, Nat.zero_mul]
  have hlimit : significand 0 den * Nat.pow 2 (excessBits 0 den) < unitsLimit := by
    rw [hunits]
    exact unitsLimit_pos
  rw [ofQuotient, dif_pos hlimit, Option.some.injEq, zero, Magnitude.mk.injEq]
  exact hunits

theorem isSome_ofQuotient_iff (num den : Nat) :
    (ofQuotient num den).isSome ↔ roundedUnits num den < unitsLimit := by
  unfold ofQuotient roundedUnits
  dsimp only
  split
  next h => exact ⟨fun _ => h, fun _ => rfl⟩
  next h => exact ⟨nofun, fun hlt => absurd hlt h⟩

end Magnitude

namespace Binary64

theorem ofQuotient_zero_left (negative : Bool) (den : Nat) :
    ofQuotient negative 0 den = finite negative .zero := by
  unfold ofQuotient
  rw [Magnitude.ofQuotient_zero_left]

theorem units_ofQuotient (num den : Nat) :
    (ofQuotient false num den).units = min (Magnitude.roundedUnits num den) unitsLimit := by
  unfold ofQuotient Magnitude.ofQuotient
  by_cases h : Magnitude.roundedUnits num den < unitsLimit
  · have h' := h
    unfold Magnitude.roundedUnits at h'
    simp only [h', dite_true, units, Bool.false_eq_true, if_false]
    rw [Nat.min_eq_left (Nat.le_of_lt h)]
    rfl
  · have h' := h
    unfold Magnitude.roundedUnits at h'
    simp only [h', dite_false, units, Bool.false_eq_true, if_false]
    rw [Nat.min_eq_right (Nat.le_of_not_lt h)]

theorem units_ofQuotient_mono {m n : Nat} (den : Nat) (h : m ≤ n) :
    (ofQuotient false m den).units ≤ (ofQuotient false n den).units := by
  have hrounded := Magnitude.roundedUnits_mono den h
  rw [units_ofQuotient, units_ofQuotient]
  omega

theorem isNaN_ofQuotient (negative : Bool) (num den : Nat) :
    (ofQuotient negative num den).isNaN = false := by
  unfold ofQuotient
  split <;> simp [isNaN]

/-- What a number is below of, it is below of when it is rounded from less. -/
theorem lt_of_ofQuotient_lt {m n : Nat} {den : Nat} {limit : Binary64} (h : m ≤ n)
    (hlt : (ofQuotient false n den).lt limit) : (ofQuotient false m den).lt limit := by
  have hunits := units_ofQuotient_mono den h
  simp only [lt, isNaN_ofQuotient, Bool.not_false, Bool.true_and, Bool.and_eq_true,
    decide_eq_true_eq] at hlt ⊢
  exact ⟨hlt.1, by omega⟩

/-! ### Whole numbers -/

/-- The whole numbers from here on, on either side of zero, are rounded to infinity. It is halfway
from the greatest finite number to `2^1024`. -/
def wholeLimit : Nat := Nat.pow 2 1024 - Nat.pow 2 970

theorem isSome_ofInt?_iff (n : Int) : (ofInt? n).isSome ↔ n.natAbs < wholeLimit := by
  rw [ofInt?, Option.isSome_map, Magnitude.isSome_ofQuotient_iff]
  have hbelow : Magnitude.roundedUnits ((wholeLimit - 1) * unitsPerOne) 1 < unitsLimit := by
    decide +kernel
  have habove : unitsLimit ≤ Magnitude.roundedUnits (wholeLimit * unitsPerOne) 1 := by
    decide +kernel
  constructor
  · intro h
    refine Nat.lt_of_not_le fun hlimit => ?_
    have hunits : wholeLimit * unitsPerOne ≤ n.natAbs * unitsPerOne :=
      Nat.mul_le_mul_right _ hlimit
    have hrounded := Nat.lt_of_le_of_lt (Magnitude.roundedUnits_mono 1 hunits) h
    exact absurd habove (Nat.not_le.2 hrounded)
  · intro h
    have hunits : n.natAbs * unitsPerOne ≤ (wholeLimit - 1) * unitsPerOne :=
      Nat.mul_le_mul_right _ (Nat.le_sub_one_of_lt h)
    exact Nat.lt_of_le_of_lt (Magnitude.roundedUnits_mono 1 hunits) hbelow

/-! ### Products -/

theorem units_ofQuotient_nonneg (num den : Nat) : 0 ≤ (ofQuotient false num den).units := by
  rw [units_ofQuotient]
  omega

theorem units_ofQuotient_true (num den : Nat) :
    (ofQuotient true num den).units = -(ofQuotient false num den).units := by
  unfold ofQuotient
  cases Magnitude.ofQuotient num den <;> simp only [units, if_true, Bool.false_eq_true, if_false]

theorem mul_eq (x y : Binary64) : x * y = x.mul y := rfl

theorem exists_of_isFinite {x : Binary64} (h : x.isFinite) : ∃ a m, x = finite a m := by
  cases x with
  | finite a m => exact ⟨a, m, rfl⟩
  | _ => cases h

/-- A positive number has no sign, so that a product with it has the sign of the other factor. -/
theorem exists_of_units_pos {x : Binary64} (h : x.isFinite) (hpos : 0 < x.units) :
    ∃ m, x = finite false m := by
  obtain ⟨a, m, rfl⟩ := exists_of_isFinite h
  cases a with
  | false => exact ⟨m, rfl⟩
  | true =>
    simp only [units, if_true] at hpos
    omega

theorem finite_mul_finite (a : Bool) (m n : Magnitude) :
    finite a m * finite false n = ofQuotient a (m.units * n.units) unitsPerOne := by
  rw [mul_eq, mul, Bool.bne_false]

/-- Multiplying by a positive number keeps the order of finite numbers, of those too whose product
is infinite. -/
theorem units_mul_mono {x y z : Binary64} (hx : x.isFinite) (hy : y.isFinite) (hz : z.isFinite)
    (hpos : 0 < z.units) (h : x.units ≤ y.units) : (x * z).units ≤ (y * z).units := by
  obtain ⟨a, m, rfl⟩ := exists_of_isFinite hx
  obtain ⟨b, n, rfl⟩ := exists_of_isFinite hy
  obtain ⟨k, rfl⟩ := exists_of_units_pos hz hpos
  rw [finite_mul_finite, finite_mul_finite]
  have hm := units_ofQuotient_nonneg (m.units * k.units) unitsPerOne
  have hn := units_ofQuotient_nonneg (n.units * k.units) unitsPerOne
  match a, b with
  | false, false =>
    have hle : m.units ≤ n.units := by simpa [units] using h
    exact units_ofQuotient_mono _ (Nat.mul_le_mul_right _ hle)
  | true, false =>
    rw [units_ofQuotient_true]
    omega
  | false, true =>
    -- Only zeros are in this order.
    simp only [units, if_true, Bool.false_eq_true, if_false] at h
    have hmzero : m.units = 0 := by omega
    have hnzero : n.units = 0 := by omega
    rw [hmzero, hnzero, Nat.zero_mul, ofQuotient_zero_left, ofQuotient_zero_left]
    decide
  | true, true =>
    have hle : n.units ≤ m.units := by simpa [units] using h
    have hmono := units_ofQuotient_mono unitsPerOne (Nat.mul_le_mul_right k.units hle)
    rw [units_ofQuotient_true, units_ofQuotient_true]
    omega

end Binary64

end Wireframe
