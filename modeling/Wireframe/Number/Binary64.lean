/-!
# Binary64 numbers

The floating-point numbers of 64 bits, with exact values: a finite number is a sign and a
magnitude counted in units of `2^-1074`, the least positive number. Every operation computes the
exact result and rounds it once, to the nearest number and to the even one of two nearest.

Main statements: `roundQuotient_le`/`roundQuotient_ge` bound the rounding by its neighbours, and
every magnitude is representable by construction (`Magnitude.fits`).
-/
namespace Wireframe

/-! ## Rounding a quotient -/

/-- The natural number nearest to `num / den`, the even one of two nearest. -/
def roundQuotient (num den : Nat) : Nat :=
  let floor := num / den
  let twice := 2 * (num % den)
  if twice < den || (twice = den && floor % 2 = 0) then floor else floor + 1

theorem roundQuotient_le (num den : Nat) : roundQuotient num den ≤ num / den + 1 := by
  unfold roundQuotient
  simp only
  split <;> omega

theorem roundQuotient_ge (num den : Nat) : num / den ≤ roundQuotient num den := by
  unfold roundQuotient
  simp only
  split <;> omega

/-! ## Magnitudes -/

/-- The least positive number is `2` to the minus this power. -/
def unitExponent : Nat := 1074

/-- The number of units in `1`. -/
def unitsPerOne : Nat := Nat.pow 2 unitExponent

/-- The number of units in `2^1024`; magnitudes from here on are infinite. -/
def unitsLimit : Nat := Nat.pow 2 (unitExponent + 1024)

/-- The number `2^52`, which has one bit above the 52 bits of a fraction. -/
def hiddenBit : Nat := 0x10000000000000

/-- The number `2^53`: significands are at most that. -/
def significandLimit : Nat := 0x20000000000000

/-- A number of units that has at most 53 significant bits and lies below the limit. -/
structure Representable (units : Nat) : Prop where
  below : units < unitsLimit
  significant : ∃ q s, q ≤ significandLimit ∧ units = q * Nat.pow 2 s

structure Magnitude where
  units : Nat
  fits : Representable units
  deriving DecidableEq

theorem pow_two_pos (n : Nat) : 0 < Nat.pow 2 n := by rw [Nat.pow_eq]; exact Nat.two_pow_pos n

theorem unitsLimit_pos : 0 < unitsLimit := by unfold unitsLimit; exact pow_two_pos _

theorem unitsPerOne_lt : unitsPerOne < unitsLimit := by
  unfold unitsPerOne unitsLimit
  rw [Nat.pow_eq, Nat.pow_eq]
  exact Nat.pow_lt_pow_right (by decide) (Nat.lt_add_of_pos_right (by decide))

theorem representable_zero : Representable 0 :=
  ⟨unitsLimit_pos, 0, 0, Nat.zero_le _, (Nat.zero_mul _).symm⟩

theorem representable_one : Representable unitsPerOne :=
  ⟨unitsPerOne_lt, 1, unitExponent, by decide, by unfold unitsPerOne; rw [Nat.one_mul]⟩

namespace Magnitude

def zero : Magnitude := ⟨0, representable_zero⟩

def one : Magnitude := ⟨unitsPerOne, representable_one⟩

/-- How many low bits of `num / den` lie beyond the 53 significant ones. -/
def excessBits (num den : Nat) : Nat := (num / den).log2 - 52

/-- The significand of the nearest number with 53 significant bits. -/
def significand (num den : Nat) : Nat := roundQuotient num (den * Nat.pow 2 (excessBits num den))

theorem div_excess_lt (n : Nat) : n / Nat.pow 2 (n.log2 - 52) < significandLimit := by
  have hlimit : significandLimit = 2 ^ 53 := by decide
  rw [Nat.pow_eq, hlimit, Nat.div_lt_iff_lt_mul (Nat.two_pow_pos _), ← Nat.pow_add]
  exact Nat.lt_of_lt_of_le Nat.lt_log2_self (Nat.pow_le_pow_right (by decide) (by omega))

theorem significand_le (num den : Nat) : significand num den ≤ significandLimit := by
  have h := roundQuotient_le num (den * Nat.pow 2 (excessBits num den))
  have hq := div_excess_lt (num / den)
  rw [Nat.div_div_eq_div_mul] at hq
  simp only [significand, excessBits] at *
  omega

/-- The magnitude nearest to `num / den` units; `none` where that is infinite. -/
def ofQuotient (num den : Nat) : Option Magnitude :=
  let units := significand num den * Nat.pow 2 (excessBits num den)
  if h : units < unitsLimit then
    some ⟨units, h, significand num den, excessBits num den, significand_le num den, rfl⟩
  else none

end Magnitude

/-! ## Numbers -/

/-- A number of 64 bits. There is one value that is not a number. -/
inductive Binary64 where
  | nan
  | infinite (negative : Bool)
  | finite (negative : Bool) (magnitude : Magnitude)
  deriving DecidableEq

namespace Binary64

def zero : Binary64 := finite false .zero

def one : Binary64 := finite false .one

def isFinite : Binary64 → Bool
  | finite .. => true
  | _ => false

def isNaN (x : Binary64) : Bool := x = nan

/-- The value in units of `2^-1074`; an infinity lies just beyond the finite values, and what is
not a number counts as zero. -/
def units : Binary64 → Int
  | nan => 0
  | infinite negative => if negative then -unitsLimit else unitsLimit
  | finite negative magnitude => if negative then -magnitude.units else magnitude.units

/-- The number nearest to `num / den` units, with the given sign. -/
def ofQuotient (negative : Bool) (num den : Nat) : Binary64 :=
  match Magnitude.ofQuotient num den with
  | some magnitude => finite negative magnitude
  | none => infinite negative

/-- The number nearest to a whole number; `none` where that is infinite. -/
def ofInt? (n : Int) : Option Binary64 :=
  (Magnitude.ofQuotient (n.natAbs * unitsPerOne) 1).map (finite (n < 0))

/-! ### Order -/

def lt (x y : Binary64) : Bool := !x.isNaN && !y.isNaN && x.units < y.units

def le (x y : Binary64) : Bool := !x.isNaN && !y.isNaN && x.units ≤ y.units

/-! ### Arithmetic -/

def neg : Binary64 → Binary64
  | nan => nan
  | infinite negative => infinite !negative
  | finite negative magnitude => finite (!negative) magnitude

def abs : Binary64 → Binary64
  | nan => nan
  | infinite _ => infinite false
  | finite _ magnitude => finite false magnitude

/-- The number nearest to `units` units; `negativeZero` is the sign of an exact zero. -/
def ofUnits (units : Int) (negativeZero : Bool) : Binary64 :=
  ofQuotient (if units = 0 then negativeZero else units < 0) units.natAbs 1

def add : Binary64 → Binary64 → Binary64
  | nan, _ => nan
  | _, nan => nan
  | infinite a, infinite b => if a = b then infinite a else nan
  | infinite a, finite .. => infinite a
  | finite .., infinite b => infinite b
  | x@(finite a _), y@(finite b _) => ofUnits (x.units + y.units) (a && b)

def sub (x y : Binary64) : Binary64 := x.add y.neg

def mul : Binary64 → Binary64 → Binary64
  | nan, _ => nan
  | _, nan => nan
  | infinite a, infinite b => infinite (a != b)
  | infinite a, finite b m => if m.units = 0 then nan else infinite (a != b)
  | finite a m, infinite b => if m.units = 0 then nan else infinite (a != b)
  | finite a m, finite b n => ofQuotient (a != b) (m.units * n.units) unitsPerOne

def div : Binary64 → Binary64 → Binary64
  | nan, _ => nan
  | _, nan => nan
  | infinite _, infinite _ => nan
  | infinite a, finite b _ => infinite (a != b)
  | finite a _, infinite b => finite (a != b) .zero
  | finite a m, finite b n =>
    if n.units = 0 then if m.units = 0 then nan else infinite (a != b)
    else ofQuotient (a != b) (m.units * unitsPerOne) n.units

instance : Add Binary64 := ⟨add⟩
instance : Sub Binary64 := ⟨sub⟩
instance : Mul Binary64 := ⟨mul⟩
instance : Div Binary64 := ⟨div⟩
instance : Neg Binary64 := ⟨neg⟩

/-! ### Bits -/

/-- The bits of a magnitude: the exponent above the 52 bits of the fraction. -/
def magnitudeBits (units : Nat) : Nat :=
  if units < hiddenBit then units
  else
    let shift := units.log2 - 52
    shift * hiddenBit + units / Nat.pow 2 shift

/-- The bit of the sign. -/
def signBit (negative : Bool) : Nat := if negative then 0x8000000000000000 else 0

/-- The interchange format, as a number below `2^64`. -/
def toBits : Binary64 → Nat
  | nan => 0x7FF8000000000000
  | infinite negative => signBit negative + 0x7FF0000000000000
  | finite negative magnitude => signBit negative + magnitudeBits magnitude.units

end Binary64

end Wireframe
