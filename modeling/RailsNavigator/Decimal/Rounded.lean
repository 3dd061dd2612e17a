import RailsNavigator.Decimal.Shortest

/-!
# Rounded decimals

Decimals with a given number of places or of significant digits. The exact value of a double is
rounded once to the nearest decimal, and a tie goes to the even neighbour.
-/

namespace RailsNavigator.Decimal

/-- The integer nearest to a fraction divided by a power of ten; a tie goes to the even one. -/
def Fraction.round (value : Fraction) (exponent : Int) : Nat :=
  let place := value.shift exponent
  let floor := place.numerator / place.denominator
  let twice := 2 * (place.numerator % place.denominator)
  if twice > place.denominator || (twice == place.denominator && floor % 2 == 1) then floor + 1
  else floor

/-- The digits of a number, with zeros before them up to a width. -/
def paddedDigits (width value : Nat) : List Char :=
  let digits := Nat.toDigits 10 value
  List.replicate (width - digits.length) '0' ++ digits

/-- Digits with a point before the last `places` of them. Without places the point stands only if it
is asked for. -/
def withPoint (digits : List Char) (places : Nat) (point : Bool) : List Char :=
  let whole := digits.take (digits.length - places)
  if places = 0 && !point then whole else whole ++ '.' :: digits.drop (digits.length - places)

/-- A fraction with a number of places. -/
def fixedPoint (value : Fraction) (places : Nat) (point : Bool) : List Char :=
  withPoint (paddedDigits (places + 1) (value.round (-places))) places point

/-- Significant digits, and the exponent of the leading one. -/
structure Significant where
  digits : Nat
  leading : Int
  deriving DecidableEq, Repr

/-- A fraction rounded to a number of significant digits. -/
def significant (value : Fraction) (count : Nat) : Significant :=
  if value.numerator = 0 then ⟨0, 0⟩
  else
    let digits := value.round (value.leading - count + 1)
    -- Rounding up to a power of ten gives one digit more.
    if digits = Nat.pow 10 count then ⟨digits / 10, value.leading + 1⟩ else ⟨digits, value.leading⟩

/-- A fraction in scientific notation with a number of places. -/
def exponential (value : Fraction) (places : Nat) (point : Bool) : List Char :=
  let rounded := significant value (places + 1)
  withPoint (paddedDigits (places + 1) rounded.digits) places point ++ exponentMark rounded.leading

/-- Drops zeros at the end of the places, and the point if none is left. -/
def dropZeros (text : List Char) : List Char :=
  if text.contains '.' then Text.trimEnd (· == '.') (Text.trimEnd (· == '0') text) else text

/-- A fraction with a number of significant digits, in scientific notation if it is very small or if
its digits end before the point. Zeros at the end stand only if they are asked for. -/
def general (value : Fraction) (count : Nat) (zeros : Bool) : List Char :=
  let count := max 1 count
  let rounded := significant value count
  let trim := if zeros then id else dropZeros
  if rounded.leading < -4 || count ≤ rounded.leading then
    trim (withPoint (paddedDigits count rounded.digits) (count - 1) zeros)
      ++ exponentMark rounded.leading
  else trim (fixedPoint value (count - 1 - rounded.leading).toNat zeros)

end RailsNavigator.Decimal
