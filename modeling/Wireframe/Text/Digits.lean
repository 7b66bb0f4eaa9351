import Wireframe.Text.Basic

/-!
# Decimal digits

Numbers as texts of ASCII digits, and back. There is no limit to the digits of a text here: where
the one of the interpreter matters, `Numeral.isWritable` says which numbers are within it.
-/
namespace Wireframe

namespace Text

/-- The decimal digits of `n`, the first not zero unless it is the only one. -/
def ofNat (n : Nat) : Text := (Nat.toDigits 10 n).map Char.toNat

/-- A whole number in decimal, of any length: the interpreter's limit is not applied here. -/
def ofInt (n : Int) : Text :=
  if n < 0 then 0x2D :: ofNat n.natAbs else ofNat n.natAbs

/-- The number that a text of ASCII digits stands for; other code points are not expected. -/
def digitsValue (t : Text) : Nat := t.foldl (fun n c => 10 * n + (c - 0x30)) 0

/-- An upper-case hexadecimal digit. -/
def upperHexDigit (d : Nat) : Nat := if d < 10 then 0x30 + d else 0x37 + d

/-- The last four hexadecimal digits of `n`, in upper case. -/
def upperHex4 (n : Nat) : Text :=
  [n / 0x1000 % 16, n / 0x100 % 16, n / 0x10 % 16, n % 16].map upperHexDigit

/-- `n` in hexadecimal with lower-case digits, filled with zeros up to `width`. -/
def paddedHex (width n : Nat) : Text :=
  let digits := (Nat.toDigits 16 n).map Char.toNat
  List.replicate (width - digits.length) 0x30 ++ digits

/-- The value of a hexadecimal digit. -/
def hexValue? (c : Nat) : Option Nat :=
  if 0x30 ≤ c && c ≤ 0x39 then some (c - 0x30)
  else if 0x61 ≤ c && c ≤ 0x66 then some (c - 0x61 + 10)
  else if 0x41 ≤ c && c ≤ 0x46 then some (c - 0x41 + 10)
  else none

end Text

end Wireframe
